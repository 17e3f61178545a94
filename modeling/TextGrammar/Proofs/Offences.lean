import TextGrammar.Proofs.Checking
import TextGrammar.Proofs.Tiling
import TextGrammar.Pattern.Standard

set_option autoImplicit false

namespace TextGrammar

namespace Checkpoint

def place : Checkpoint → Span
  | use name => name.span
  | pattern op source => Span.range op.start source.span.stop
  | defined _ stop => ⟨stop, 0⟩

end Checkpoint

namespace Node

def checkpoint : Node → Option Checkpoint
  | .literal _ => none
  | .name n => some (.use n)
  | .group .. => none
  | .define op n body => some (.defined n.text (Node.define op n body).span.stop)
  | .choose .. => none
  | .optional .. => none
  | .regex op source _ _ => some (.pattern op source)

mutual

theorem mem_checkpoints (node : Node) (depth : Nat) (checkpoint : Checkpoint) :
    checkpoint ∈ node.checkpoints ↔
      ∃ entry ∈ node.preorder depth, entry.2.checkpoint = some checkpoint := by
  cases node with
  | literal l => simp [checkpoints, preorder, Node.checkpoint]
  | name n => simp [checkpoints, preorder, Node.checkpoint, eq_comm]
  | group opening statements closing =>
      simpa [checkpoints, preorder, Node.checkpoint] using
        mem_checkpoints_all statements (depth + 1) checkpoint
  | define op n body =>
      have inner := mem_checkpoints body (depth + 1) checkpoint
      simp only [checkpoints, preorder, List.mem_append, inner, List.mem_singleton,
        List.exists_mem_cons_iff, Node.checkpoint, Option.some.injEq]
      rw [or_comm, eq_comm]
  | choose op opening alternatives closing =>
      simpa [checkpoints, preorder, Node.checkpoint] using
        mem_checkpoints_all alternatives (depth + 1) checkpoint
  | optional op body =>
      simpa [checkpoints, preorder, Node.checkpoint] using
        mem_checkpoints body (depth + 1) checkpoint
  | regex op source matched unmatched =>
      have first := mem_checkpoints matched (depth + 1) checkpoint
      have second := mem_checkpoints unmatched (depth + 1) checkpoint
      rw [checkpoints, preorder, List.mem_cons, List.mem_append, first, second,
        List.exists_mem_cons_iff, Node.checkpoint, Option.some.injEq, eq_comm]
      simp only [List.mem_append, or_and_right, exists_or]

theorem mem_checkpoints_all (nodes : List Node) (depth : Nat) (checkpoint : Checkpoint) :
    checkpoint ∈ checkpointsAll nodes ↔
      ∃ entry ∈ preorderAll depth nodes, entry.2.checkpoint = some checkpoint := by
  cases nodes with
  | nil => simp [checkpointsAll, preorderAll]
  | cons node rest =>
      have first := mem_checkpoints node depth checkpoint
      have second := mem_checkpoints_all rest depth checkpoint
      simp only [checkpointsAll, preorderAll, List.mem_append, first, second, or_and_right, exists_or]

end

theorem laid_exact (node : Node) (low high : Nat) (laid : Laid low node.tokens high) :
    low ≤ node.span.start ∧ Laid node.span.start node.tokens node.span.stop ∧
      node.span.stop ≤ high := by
  obtain ⟨before, exactly, behind⟩ := tokens_exact node low high laid.spread
  exact ⟨before, ⟨exactly, laid.visible⟩, behind⟩

mutual

theorem checkpoints_spread (node : Node) (low high : Nat) (laid : Laid low node.tokens high) :
    Spread low (node.checkpoints.map Checkpoint.place) high := by
  cases node with
  | literal l => exact spread_bounds _ _ _ laid.spread
  | name n => exact laid.spread
  | group opening statements closing =>
      obtain ⟨before, size, rest⟩ := laid_cons _ _ _ _ laid
      obtain ⟨middle, inside, last⟩ := laid_append _ _ _ _ rest
      exact spread_widen _ _ _ _ _ (Nat.le_trans before (Nat.le_of_lt size))
        (spread_bounds _ _ _ last.spread) (checkpoints_all_spread statements _ _ inside)
  | define op n body =>
      obtain ⟨before, size, rest⟩ := laid_cons _ _ _ _ laid
      obtain ⟨apart, behind, inside⟩ := laid_cons _ _ _ _ rest
      obtain ⟨later, exactly, stops⟩ := laid_exact body _ _ inside
      have reach := spread_bounds _ _ _ exactly.spread
      have whole : (Node.define op n body).span.stop = body.span.stop :=
        Span.stop_range _ _ (by dsimp only at *; omega)
      rw [checkpoints, List.map_append, spread_append]
      refine ⟨body.span.stop, spread_widen _ _ _ _ _ ?_ (Nat.le_refl _)
        (checkpoints_spread body _ _ exactly), ?_⟩
      · dsimp only at *
        omega
      · simpa [Spread, Checkpoint.place, Span.stop] using ⟨whole.ge, whole.le.trans stops⟩
  | choose op opening alternatives closing =>
      obtain ⟨before, size, rest⟩ := laid_cons _ _ _ _ laid
      obtain ⟨apart, behind, others⟩ := laid_cons _ _ _ _ rest
      obtain ⟨middle, inside, last⟩ := laid_append _ _ _ _ others
      refine spread_widen _ _ _ _ _ ?_ (spread_bounds _ _ _ last.spread)
        (checkpoints_all_spread alternatives _ _ inside)
      dsimp only at *
      omega
  | optional op body =>
      obtain ⟨before, size, inside⟩ := laid_cons _ _ _ _ laid
      exact spread_widen _ _ _ _ _ (Nat.le_trans before (Nat.le_of_lt size)) (Nat.le_refl _)
        (checkpoints_spread body _ _ inside)
  | regex op source matched unmatched =>
      obtain ⟨before, size, rest⟩ := laid_cons _ _ _ _ laid
      obtain ⟨apart, behind, inside⟩ := laid_cons _ _ _ _ rest
      obtain ⟨middle, first, second⟩ := laid_append _ _ _ _ inside
      have stops : (Span.range op.start source.span.stop).stop = source.span.stop :=
        Span.stop_range _ _ (by dsimp only at *; omega)
      rw [checkpoints, List.map_cons, List.map_append]
      refine ⟨before, ?_⟩
      rw [spread_append]
      refine ⟨middle, ?_, checkpoints_spread unmatched _ _ second⟩
      rw [show (Checkpoint.pattern op source).place.stop = source.span.stop from stops]
      exact checkpoints_spread matched _ _ first

theorem checkpoints_all_spread (nodes : List Node) (low high : Nat)
    (laid : Laid low (tokensAll nodes) high) :
    Spread low ((checkpointsAll nodes).map Checkpoint.place) high := by
  cases nodes with
  | nil => exact spread_bounds _ _ _ laid.spread
  | cons node rest =>
      obtain ⟨middle, first, second⟩ := laid_append _ _ _ _ laid
      rw [checkpointsAll, List.map_append, spread_append]
      exact ⟨middle, checkpoints_spread node _ _ first, checkpoints_all_spread rest _ _ second⟩

end

end Node

namespace Grammar

def DefinesBefore (grammar : Grammar) (name : String) (offset : Nat) : Prop :=
  ∃ (depth : Nat) (op : Span) (n : Name) (body : Node),
    (depth, Node.define op n body) ∈ grammar.preorder ∧ n.text = name ∧
      (Node.define op n body).span.stop ≤ offset

inductive Offends [Pattern.Engine] (grammar : Grammar) : Node → CompileError → Prop where
  | unresolved (depth : Nat) (n : Name) (member : (depth, Node.name n) ∈ grammar.preorder)
      (undefined : ¬ grammar.DefinesBefore n.text n.span.start) :
      Offends grammar (.name n) (.unresolved n.text n.span)
  | invalidPattern (depth : Nat) (op : Span) (source : Literal) (matched unmatched : Node)
      (fault : Pattern.Fault)
      (member : (depth, Node.regex op source matched unmatched) ∈ grammar.preorder)
      (rejected : Pattern.Engine.read source.text = .error fault) :
      Offends grammar (.regex op source matched unmatched)
        (.invalidPattern source.text fault source.span)

def OffendsFirst [Pattern.Engine] (grammar : Grammar) (node : Node) (error : CompileError) : Prop :=
  grammar.Offends node error ∧
    ∀ other otherError, grammar.Offends other otherError → node.span.start ≤ other.span.start

theorem mem_checkpoints (grammar : Grammar) (checkpoint : Checkpoint) :
    checkpoint ∈ grammar.checkpoints ↔
      ∃ entry ∈ grammar.preorder, entry.2.checkpoint = some checkpoint :=
  Node.mem_checkpoints_all grammar.statements 1 checkpoint

theorem defined_checkpoint (grammar : Grammar) (name : String) (offset : Nat) :
    grammar.DefinesBefore name offset ↔
      ∃ stop, .defined name stop ∈ grammar.checkpoints ∧ stop ≤ offset := by
  simp only [mem_checkpoints]
  constructor
  · rintro ⟨depth, op, n, body, member, rfl, ends⟩
    exact ⟨_, ⟨_, member, rfl⟩, ends⟩
  · rintro ⟨stop, ⟨⟨depth, node⟩, member, own⟩, ends⟩
    cases node <;> cases own
    exact ⟨depth, _, _, _, member, rfl, ends⟩

section

variable {low high : Nat} (grammar : Grammar)
  (laid : Laid low (Node.tokensAll grammar.statements) high)

include laid

theorem member_laid (depth : Nat) (node : Node) (member : (depth, node) ∈ grammar.preorder) :
    ∃ low' high', Laid low' node.tokens high' :=
  laid_part _ _ _ _ laid (Node.inner_tokens_all grammar.statements node 1 depth member)

theorem split_ordered (front rest : List Checkpoint) (checkpoint : Checkpoint)
    (split : grammar.checkpoints = front ++ checkpoint :: rest) :
    (∀ other ∈ front, other.place.stop ≤ checkpoint.place.start) ∧
      ∀ other ∈ rest, checkpoint.place.stop ≤ other.place.start := by
  have spread := Node.checkpoints_all_spread grammar.statements low high laid
  have ordered := List.pairwise_map.mp (spread_ordered _ _ _ spread)
  rw [show Node.checkpointsAll grammar.statements = front ++ checkpoint :: rest from split] at ordered
  obtain ⟨-, behind, across⟩ := List.pairwise_append.mp ordered
  exact ⟨fun other member => across other member checkpoint (by simp),
    (List.pairwise_cons.mp behind).1⟩

-- What is defined when the compiler comes by a use is what is complete before the place of the use.
theorem known_before (front rest : List Checkpoint) (n : Name)
    (split : grammar.checkpoints = front ++ .use n :: rest) :
    n.text ∈ Checkpoint.namesBehind [] front ↔ grammar.DefinesBefore n.text n.span.start := by
  obtain ⟨before, behind⟩ := split_ordered grammar laid front rest _ split
  simp only [Checkpoint.mem_names_behind, List.not_mem_nil, false_or, defined_checkpoint]
  constructor
  · rintro ⟨stop, member⟩
    exact ⟨stop, by simp [split, member], before _ member⟩
  · rintro ⟨stop, member, ends⟩
    rw [split, List.mem_append, List.mem_cons] at member
    obtain early | same | late := member
    · exact ⟨stop, early⟩
    · cases same
    · obtain ⟨⟨depth, node⟩, inside, own⟩ := (mem_checkpoints grammar (.use n)).mp (by simp [split])
      cases node <;> cases own
      obtain ⟨_, _, here⟩ := member_laid grammar laid depth _ inside
      obtain ⟨-, size, -⟩ := laid_cons _ _ _ _ here
      have later := behind _ late
      simp only [Checkpoint.place] at later
      dsimp only at size
      omega

variable [Pattern.Engine]

theorem fault_offends (front rest : List Checkpoint) (checkpoint : Checkpoint) (error : CompileError)
    (split : grammar.checkpoints = front ++ checkpoint :: rest) :
    checkpoint.fault (Checkpoint.namesBehind [] front) = some error ↔
      ∃ node, grammar.Offends node error ∧ node.checkpoint = some checkpoint := by
  constructor
  · intro faulty
    obtain ⟨⟨depth, node⟩, member, own⟩ :=
      (mem_checkpoints grammar checkpoint).mp (by simp [split])
    cases node with
    | literal | group | choose | optional => cases own
    | define op n body => cases own; cases faulty
    | name n =>
        cases own
        have known := known_before grammar laid front rest n split
        by_cases defined : n.text ∈ Checkpoint.namesBehind [] front
        · simp [Checkpoint.fault, defined] at faulty
        · obtain rfl : CompileError.unresolved n.text n.span = error := by
            simpa [Checkpoint.fault, defined] using faulty
          exact ⟨_, .unresolved depth n member fun before => defined (known.mpr before), rfl⟩
    | regex op source matched unmatched =>
        cases own
        cases read : Pattern.Engine.read source.text with
        | ok pattern => simp [Checkpoint.fault, read] at faulty
        | error fault =>
            obtain rfl : CompileError.invalidPattern source.text fault source.span = error := by
              simpa [Checkpoint.fault, read] using faulty
            exact ⟨_, .invalidPattern depth op source matched unmatched fault member read, rfl⟩
  · rintro ⟨node, offends, own⟩
    cases offends with
    | unresolved depth n member undefined =>
        cases own
        have known := known_before grammar laid front rest n split
        exact if_neg fun defined => undefined (known.mp defined)
    | invalidPattern depth op source matched unmatched fault member rejected =>
        cases own
        simp [Checkpoint.fault, rejected]

theorem offends_place (node : Node) (error : CompileError) (offends : grammar.Offends node error) :
    ∃ checkpoint ∈ grammar.checkpoints, node.checkpoint = some checkpoint ∧
      checkpoint.place.start = node.span.start ∧ node.span.start ≤ error.place.start ∧
        error.place.start < checkpoint.place.stop := by
  cases offends with
  | unresolved depth n member undefined =>
      obtain ⟨_, _, here⟩ := member_laid grammar laid depth _ member
      obtain ⟨-, size, -⟩ := laid_cons _ _ _ _ here
      exact ⟨.use n, (mem_checkpoints grammar _).mpr ⟨_, member, rfl⟩, rfl, rfl, Nat.le_refl _, size⟩
  | invalidPattern depth op source matched unmatched fault member rejected =>
      obtain ⟨_, _, here⟩ := member_laid grammar laid depth _ member
      obtain ⟨-, first, rest⟩ := laid_cons _ _ _ _ here
      obtain ⟨apart, second, -⟩ := laid_cons _ _ _ _ rest
      dsimp only at first apart second
      refine ⟨.pattern op source, (mem_checkpoints grammar _).mpr ⟨_, member, rfl⟩, rfl, rfl, ?_, ?_⟩
      · change op.start ≤ source.span.start
        omega
      · change source.span.start < (Span.range op.start source.span.stop).stop
        rw [Span.stop_range _ _ (by omega)]
        exact second

theorem first_fault_least (front rest : List Checkpoint) (first : Checkpoint) (error : CompileError)
    (split : grammar.checkpoints = front ++ first :: rest)
    (passed : Checkpoint.firstFault [] front = none)
    (faulty : first.fault (Checkpoint.namesBehind [] front) = some error) (other : Node)
    (otherError : CompileError) (offends : grammar.Offends other otherError) :
    (other.span.start = first.place.start ∧ otherError = error) ∨
      first.place.stop ≤ other.span.start := by
  obtain ⟨checkpoint, member, own, starts, -, -⟩ := offends_place grammar laid other otherError offends
  rw [split, List.mem_append, List.mem_cons] at member
  obtain early | rfl | late := member
  · obtain ⟨before, between, shape⟩ := List.append_of_mem early
    have resplit : grammar.checkpoints = before ++ checkpoint :: (between ++ first :: rest) := by
      rw [split, shape]
      simp
    have found := (fault_offends grammar laid _ _ checkpoint otherError resplit).mpr
      ⟨other, offends, own⟩
    rw [shape] at passed
    cases found.symm.trans (Checkpoint.first_fault_at _ _ _ _ passed)
  · have found := (fault_offends grammar laid _ _ checkpoint otherError split).mpr
      ⟨other, offends, own⟩
    exact .inl ⟨starts.symm, Option.some.inj (found.symm.trans faulty)⟩
  · have behind := (split_ordered grammar laid front rest first split).2 checkpoint late
    exact .inr (starts ▸ behind)

theorem first_offence (error : CompileError) (failed : grammar.compile = .error error) :
    ∃ node, grammar.Offends node error ∧ node.span.start ≤ error.place.start ∧
      ∀ other otherError, grammar.Offends other otherError →
        (other.span.start = node.span.start ∧ otherError = error) ∨
          error.place.start < other.span.start ∧ other.span.start ≤ otherError.place.start := by
  obtain ⟨front, first, rest, split, passed, faulty⟩ :=
    (Checkpoint.first_fault_some _ _ _).mp ((grammar.compile_error_iff error).mp failed)
  obtain ⟨node, offends, own⟩ := (fault_offends grammar laid _ _ _ _ split).mp faulty
  obtain ⟨_, _, same, starts, before, within⟩ := offends_place grammar laid node error offends
  obtain rfl := Option.some.inj (own.symm.trans same)
  refine ⟨node, offends, before, fun other otherError otherOffends => ?_⟩
  obtain ⟨begins, ended⟩ | behind := first_fault_least grammar laid front rest first error split passed
    faulty other otherError otherOffends
  · exact .inl ⟨begins.trans starts, ended⟩
  · obtain ⟨_, _, -, -, later, -⟩ := offends_place grammar laid other otherError otherOffends
    exact .inr ⟨Nat.lt_of_lt_of_le within behind, later⟩

theorem offends_compile (node : Node) (error : CompileError) (offends : grammar.Offends node error) :
    ∃ actual, grammar.compile = .error actual := by
  obtain ⟨checkpoint, member, own, -⟩ := offends_place grammar laid node error offends
  obtain ⟨front, rest, split⟩ := List.append_of_mem member
  have faulty := (fault_offends grammar laid _ _ _ _ split).mpr ⟨node, offends, own⟩
  cases found : Checkpoint.firstFault [] grammar.checkpoints with
  | some actual => exact ⟨actual, (grammar.compile_error_iff actual).mpr found⟩
  | none =>
      rw [split] at found
      cases faulty.symm.trans (Checkpoint.first_fault_at _ _ _ _ found)

end

-- The error is that of the offence that begins first, by where the statement stands or the place the
-- error names.
theorem compile_error_earliest [Pattern.Engine] (limit : Nat) (source : String) (grammar : Grammar)
    (read : Grammar.readWithin limit source = .ok grammar) :
    ((∃ error, grammar.compile = .error error) ↔ ∃ node error, grammar.Offends node error) ∧
      (∀ error, grammar.compile = .error error ↔ ∃ node, grammar.OffendsFirst node error) ∧
      ∀ error, grammar.compile = .error error → ∀ other otherError,
        grammar.Offends other otherError → error.place.start ≤ otherError.place.start := by
  obtain ⟨low, high, laid⟩ := statements_laid limit source grammar read
  have fails := grammar.offends_compile laid
  have first := grammar.first_offence laid
  refine ⟨⟨?_, ?_⟩, fun error => ⟨fun failed => ?_, ?_⟩, fun error failed other otherError offends => ?_⟩
  · rintro ⟨error, failed⟩
    obtain ⟨node, offends, -⟩ := first error failed
    exact ⟨node, error, offends⟩
  · rintro ⟨node, error, offends⟩
    exact fails node error offends
  · obtain ⟨node, offends, before, least⟩ := first error failed
    refine ⟨node, offends, fun other otherError otherOffends => ?_⟩
    obtain ⟨same, -⟩ | ⟨behind, -⟩ := least other otherError otherOffends
    · exact same.ge
    · exact Nat.le_trans before (Nat.le_of_lt behind)
  · rintro ⟨node, offends, earliest⟩
    obtain ⟨actual, failed⟩ := fails node error offends
    obtain ⟨other, otherOffends, before, least⟩ := first actual failed
    obtain ⟨-, rfl⟩ | ⟨behind, -⟩ := least node error offends
    · exact failed
    · have early := earliest other actual otherOffends
      omega
  · obtain ⟨node, -, -, least⟩ := first error failed
    obtain ⟨-, rfl⟩ | ⟨behind, later⟩ := least other otherError offends
    · exact Nat.le_refl _
    · exact Nat.le_of_lt (Nat.lt_of_lt_of_le behind later)

-- The definition in the branch serves the second use and comes too late for the first, and the
-- pattern in the alternative stands before both.
def branching : Grammar where
  opening := ⟨0, 1⟩
  statements :=
    [.choose ⟨1, 1⟩ ⟨2, 1⟩
        [.literal ⟨"a", '\'', ⟨3, 3⟩⟩,
          .regex ⟨7, 1⟩ ⟨"(", '\'', ⟨9, 3⟩⟩ (.name ⟨"x", ⟨13, 1⟩⟩)
            (.define ⟨15, 1⟩ ⟨"x", ⟨17, 1⟩⟩ (.literal ⟨"b", '\'', ⟨19, 3⟩⟩))] ⟨22, 1⟩,
      .name ⟨"x", ⟨24, 1⟩⟩]
  closing := ⟨25, 1⟩

theorem compile_error_earliest_in_branch :
    Grammar.readWithin 4 "(|('a' & '(' x = x 'b') x)" = .ok branching ∧
      branching.compile = .error (.invalidPattern "(" .malformed ⟨9, 3⟩) ∧
      (∃ node, branching.OffendsFirst node (.invalidPattern "(" .malformed ⟨9, 3⟩)) ∧
      branching.Offends (.name ⟨"x", ⟨13, 1⟩⟩) (.unresolved "x" ⟨13, 1⟩) := by
  have read : Grammar.readWithin 4 "(|('a' & '(' x = x 'b') x)" = .ok branching := by rfl
  have failed : branching.compile = .error (.invalidPattern "(" .malformed ⟨9, 3⟩) := by rfl
  obtain ⟨-, earliest, -⟩ := compile_error_earliest 4 _ branching read
  refine ⟨read, failed, (earliest _).mp failed, .unresolved 3 ⟨"x", ⟨13, 1⟩⟩ ?_ ?_⟩
  · decide
  · rintro ⟨depth, op, n, body, member, -, ends⟩
    simp only [Grammar.preorder, branching, Node.preorderAll, Node.preorder, List.mem_append,
      List.mem_cons, Prod.mk.injEq, Node.define.injEq, reduceCtorEq, and_false, false_or, or_false,
      List.not_mem_nil] at member
    obtain ⟨-, rfl, rfl, rfl⟩ := member
    exact absurd ends (by decide)

end Grammar

end TextGrammar
