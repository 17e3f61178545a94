import TextGrammar.Proofs.Offences
import TextGrammar.Proofs.Safety

set_option autoImplicit false

namespace TextGrammar

inductive Mark where
  | used (name : Name)
  | bound (name : Name)
  | tested (pattern : Literal)

namespace Mark

def token : Mark → Token
  | used n => ⟨.name n.text, n.span⟩
  | bound n => ⟨.name n.text, n.span⟩
  | tested source => ⟨.literal source.text source.quote, source.span⟩

def place (mark : Mark) : Span := mark.token.span

end Mark

namespace Span

def Before (a b : Span) : Prop := a.start < b.start ∧ a.stop ≤ b.start

def Apart (a b : Span) : Prop := a.Before b ∨ b.Before a

end Span

namespace Node

def mark : Node → Option Mark
  | .literal _ => none
  | .name n => some (.used n)
  | .group .. => none
  | .define _ n _ => some (.bound n)
  | .choose .. => none
  | .optional .. => none
  | .regex _ source _ _ => some (.tested source)

def marksOf (entries : List (Nat × Node)) : List Mark := entries.filterMap fun entry => entry.2.mark

theorem marks_append (front rest : List (Nat × Node)) :
    (marksOf (front ++ rest)).map Mark.token =
      (marksOf front).map Mark.token ++ (marksOf rest).map Mark.token := by
  rw [marksOf, List.filterMap_append, List.map_append, marksOf, marksOf]

mutual

theorem marks_tokens (node : Node) (depth : Nat) :
    ((marksOf (node.preorder depth)).map Mark.token).Sublist node.tokens := by
  cases node with
  | literal l => exact List.nil_sublist _
  | name n => exact List.Sublist.refl _
  | group opening statements closing =>
      exact ((marks_tokens_all statements (depth + 1)).trans (List.sublist_append_left _ _)).cons _
  | define op n body => exact ((marks_tokens body (depth + 1)).cons_cons _).cons _
  | choose op opening alternatives closing =>
      have inside := marks_tokens_all alternatives (depth + 1)
      exact ((inside.trans (List.sublist_append_left _ _)).cons _).cons _
  | optional op body => exact (marks_tokens body (depth + 1)).cons _
  | regex op source matched unmatched =>
      have parts := (marks_tokens matched (depth + 1)).append (marks_tokens unmatched (depth + 1))
      rw [← marks_append] at parts
      exact (parts.cons_cons _).cons _

theorem marks_tokens_all (nodes : List Node) (depth : Nat) :
    ((marksOf (preorderAll depth nodes)).map Mark.token).Sublist (tokensAll nodes) := by
  cases nodes with
  | nil => exact List.nil_sublist _
  | cons node rest =>
      rw [preorderAll, marks_append]
      exact (marks_tokens node depth).append (marks_tokens_all rest depth)

end

end Node

theorem placed_quoted (offset : Nat) (tokens : List Token) (text next : List Char)
    (placed : Placed offset tokens text next) (token : Token) (member : token ∈ tokens)
    (body : String) (quote : Char) (quoted : token.lexeme = .literal body quote) :
    isQuote quote = true := by
  induction tokens generalizing offset text with
  | nil => cases member
  | cons first rest ih =>
      obtain ⟨blanks, word, left, -, -, spells, -, placed⟩ := placed
      obtain rfl | behind := List.mem_cons.mp member
      · rw [quoted] at spells
        cases spells with
        | literal delimits => exact delimits
      · exact ih _ _ placed behind

namespace Grammar

def marks (grammar : Grammar) : List Mark := Node.marksOf grammar.preorder

theorem mem_marks (grammar : Grammar) (depth : Nat) (node : Node) (mark : Mark)
    (member : (depth, node) ∈ grammar.preorder) (own : node.mark = some mark) :
    mark ∈ grammar.marks :=
  List.mem_filterMap.mpr ⟨_, member, own⟩

theorem marks_tokens (grammar : Grammar) :
    (grammar.marks.map Mark.token).Sublist grammar.tokens :=
  ((Node.marks_tokens_all grammar.statements 1).trans (List.sublist_append_left _ _)).cons _

section

variable {source : String} (grammar : Grammar) (tiles : grammar.Tiles source)

include tiles

theorem mark_written (mark : Mark) (member : mark ∈ grammar.marks) :
    mark.place.Holds source mark.token.lexeme.written :=
  tiles.written mark.token (grammar.marks_tokens.subset (List.mem_map_of_mem member))

theorem marks_apart (mark other : Mark) (first : mark ∈ grammar.marks)
    (second : other ∈ grammar.marks) (differ : mark ≠ other) : mark.place.Apart other.place := by
  have ordered := List.pairwise_map.mp (tiles.ordered.sublist grammar.marks_tokens)
  have apart : grammar.marks.Pairwise fun a b => a.place.Apart b.place := ordered.imp .inl
  have : Std.Symm fun a b : Mark => a.place.Apart b.place := ⟨fun _ _ => Or.symm⟩
  exact apart.forall first second differ

end

end Grammar

inductive Reported where
  | name (text : String)
  | pattern (text : String)

def CompileError.reported : CompileError → Reported
  | unresolved name _ => .name name
  | invalidPattern pattern _ _ => .pattern pattern

def SamplingError.reported : SamplingError → Reported
  | unresolved name _ => .name name
  | invalidPattern pattern _ _ => .pattern pattern
  | recursionLimit name _ _ => .name name

namespace Grammar

-- At the place the grammar uses the name, or tests the pattern, which stands there in its quotes.
inductive Shows (grammar : Grammar) (source : String) : Reported → Span → Prop where
  | use (depth : Nat) (n : Name) (member : (depth, Node.name n) ∈ grammar.preorder)
      (written : n.span.Holds source n.text) : Shows grammar source (.name n.text) n.span
  | pattern (depth : Nat) (op : Span) (l : Literal) (matched unmatched : Node)
      (member : (depth, Node.regex op l matched unmatched) ∈ grammar.preorder)
      (quotes : isQuote l.quote = true)
      (written : l.span.Holds source (l.quote.toString ++ l.text ++ l.quote.toString)) :
      Shows grammar source (.pattern l.text) l.span

structure PointsAt (grammar : Grammar) (source : String) (reported : Reported)
    (diagnostic : Diagnostic) : Prop where
  begins : diagnostic.offset = diagnostic.place.start
  shown : grammar.Shows source reported diagnostic.place
  apart : ∀ (depth : Nat) (op : Span) (n : Name) (body : Node),
    (depth, Node.define op n body) ∈ grammar.preorder → n.span.Apart diagnostic.place

section

variable {source : String} (grammar : Grammar) (tiles : grammar.Tiles source)
  (diagnostic : Diagnostic)

include tiles

theorem bound_apart (mark : Mark) (member : mark ∈ grammar.marks) (free : ∀ n, mark ≠ .bound n)
    (depth : Nat) (op : Span) (n : Name) (body : Node)
    (defined : (depth, Node.define op n body) ∈ grammar.preorder) : n.span.Apart mark.place :=
  marks_apart grammar tiles (.bound n) mark (grammar.mem_marks depth _ _ defined rfl) member
    (free n).symm

theorem use_points (name : String)
    (used : .use ⟨name, diagnostic.place⟩ ∈ grammar.checkpoints) :
    grammar.PointsAt source (.name name) diagnostic := by
  obtain ⟨⟨depth, node⟩, member, own⟩ := (grammar.mem_checkpoints _).mp used
  cases node with
  | literal | group | define | choose | optional | regex => cases own
  | name n =>
      cases own
      have mark := grammar.mem_marks depth _ _ member rfl
      exact ⟨rfl, .use depth ⟨name, _⟩ member (mark_written grammar tiles _ mark),
        bound_apart grammar tiles _ mark nofun⟩

variable (quoted : ∀ token ∈ grammar.tokens, ∀ text quote,
  token.lexeme = .literal text quote → isQuote quote = true)

include quoted

theorem pattern_points (op : Span) (l : Literal) (here : l.span = diagnostic.place)
    (tested : .pattern op l ∈ grammar.checkpoints) :
    grammar.PointsAt source (.pattern l.text) diagnostic := by
  obtain ⟨⟨depth, node⟩, member, own⟩ := (grammar.mem_checkpoints _).mp tested
  cases node with
  | literal | name | group | define | choose | optional => cases own
  | regex _ _ matched unmatched =>
      cases own
      have mark := grammar.mem_marks depth _ _ member rfl
      have token := grammar.marks_tokens.subset (List.mem_map_of_mem mark)
      have written := mark_written grammar tiles (.tested l) mark
      refine ⟨rfl, ?_, ?_⟩
      · rw [← here]
        exact .pattern depth op l matched unmatched member (quoted _ token l.text l.quote rfl) written
      · rw [← here]
        exact bound_apart grammar tiles (.tested l) mark nofun

variable [Pattern.Engine]

theorem compile_error_points (error : CompileError) (failed : grammar.compile = .error error) :
    grammar.PointsAt source error.reported error.diagnostic := by
  obtain ⟨front, next, rest, split, -, faulty⟩ :=
    (Checkpoint.first_fault_some _ _ _).mp ((grammar.compile_error_iff error).mp failed)
  have member : next ∈ grammar.checkpoints := by simp [split]
  cases next with
  | use n =>
      obtain ⟨-, rfl⟩ : n.text ∉ _ ∧ .unresolved n.text n.span = error := by
        simpa only [Checkpoint.fault, Option.ite_none_left_eq_some, Option.some.injEq] using faulty
      exact use_points grammar tiles (CompileError.unresolved n.text n.span).diagnostic n.text member
  | pattern op l =>
      cases read : Pattern.Engine.read l.text with
      | ok pattern => simp [Checkpoint.fault, read] at faulty
      | error fault =>
          obtain rfl : CompileError.invalidPattern l.text fault l.span = error := by
            simpa [Checkpoint.fault, read] using faulty
          exact pattern_points grammar tiles _ quoted op l rfl member
  | defined name stop => cases faulty

-- Bodies are evaluated far from where they stand, and keep their places.
theorem sample_error_points (setting : Setting) (drawn : Nat) (error : SamplingError)
    (failed : (grammar.sample setting Bindings.empty drawn).result = .error error) :
    grammar.PointsAt source error.reported error.diagnostic := by
  obtain ⟨last, evaluates, -, -⟩ := sample_evaluates grammar setting Bindings.empty drawn
  have blames := evaluates_blames setting (· ∈ grammar.checkpoints) _ _ _ last _ evaluates
    (fun _ member => member) (fun name body found => by cases found)
  rw [failed] at blames
  cases error with
  | unresolved name place => exact use_points grammar tiles _ name blames.1
  | invalidPattern text fault place =>
      obtain ⟨op, l, tested, rfl, here, -⟩ := blames
      exact pattern_points grammar tiles _ quoted op l here tested
  | recursionLimit name limit place => exact use_points grammar tiles _ name blames.1

end

theorem errors_point_at_text [Pattern.Engine] (limit : Nat) (source : String) (grammar : Grammar)
    (read : Grammar.readWithin limit source = .ok grammar) :
    (∀ error, grammar.compile = .error error →
      grammar.PointsAt source error.reported error.diagnostic) ∧
    ∀ (setting : Setting) (drawn : Nat) (error : SamplingError),
      (grammar.sample setting Bindings.empty drawn).result = .error error →
        grammar.PointsAt source error.reported error.diagnostic := by
  have tiles := read_tiles limit source grammar read
  obtain ⟨text, next, -, placed, -⟩ := read_placed limit source grammar read
  have quoted := placed_quoted 0 grammar.tokens text next placed
  exact ⟨compile_error_points grammar tiles quoted, sample_error_points grammar tiles quoted⟩

-- ('é' = a ('x' a) a)
def captive : Grammar where
  opening := ⟨0, 1⟩
  statements :=
    [.literal ⟨"é", '\'', ⟨1, 4⟩⟩,
      .define ⟨6, 1⟩ ⟨"a", ⟨8, 1⟩⟩
        (.group ⟨10, 1⟩ [.literal ⟨"x", '\'', ⟨11, 3⟩⟩, .name ⟨"a", ⟨15, 1⟩⟩] ⟨16, 1⟩),
      .name ⟨"a", ⟨18, 1⟩⟩]
  closing := ⟨19, 1⟩

theorem errors_point_at_text_captive :
    Grammar.readWithin 3 "('é' = a ('x' a) a)" = .ok captive ∧
      captive.compile = .error (.unresolved "a" ⟨15, 1⟩) ∧
      (captive.sample ⟨fun _ => 0, "", 1⟩ Bindings.empty 0).result =
        .error (.recursionLimit "a" 1 ⟨15, 1⟩) ∧
      captive.PointsAt "('é' = a ('x' a) a)" (.name "a")
        (CompileError.unresolved "a" ⟨15, 1⟩).diagnostic ∧
      captive.PointsAt "('é' = a ('x' a) a)" (.name "a")
        (SamplingError.recursionLimit "a" 1 ⟨15, 1⟩).diagnostic := by
  have read : Grammar.readWithin 3 "('é' = a ('x' a) a)" = .ok captive := by rfl
  have failed : captive.compile = .error (.unresolved "a" ⟨15, 1⟩) := by rfl
  have limited : (captive.sample ⟨fun _ => 0, "", 1⟩ Bindings.empty 0).result =
      .error (.recursionLimit "a" 1 ⟨15, 1⟩) := by rfl
  obtain ⟨compiles, samples⟩ := errors_point_at_text 3 _ captive read
  exact ⟨read, failed, limited, compiles _ failed, samples _ 0 _ limited⟩

end Grammar

end TextGrammar
