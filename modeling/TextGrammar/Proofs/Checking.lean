import TextGrammar.Proofs.Compilation

set_option autoImplicit false

namespace TextGrammar

-- A pattern comes with the operator before it, a definition with the offset at which it is complete.
inductive Checkpoint where
  | use (name : Name)
  | pattern (op : Span) (source : Literal)
  | defined (name : String) (stop : Nat)
deriving DecidableEq

namespace Node

mutual

def checkpoints : Node → List Checkpoint
  | .literal _ => []
  | .name n => [.use n]
  | .group _ statements _ => checkpointsAll statements
  | .define op n body => body.checkpoints ++ [.defined n.text (Node.define op n body).span.stop]
  | .choose _ _ alternatives _ => checkpointsAll alternatives
  | .optional _ body => body.checkpoints
  | .regex op source matched unmatched =>
      .pattern op source :: (matched.checkpoints ++ unmatched.checkpoints)

def checkpointsAll : List Node → List Checkpoint
  | [] => []
  | node :: rest => node.checkpoints ++ checkpointsAll rest

end

end Node

namespace Checkpoint

def definedName : Checkpoint → Option String
  | use _ => none
  | pattern _ _ => none
  | defined name _ => some name

def namesBehind (names : List String) (checkpoints : List Checkpoint) : List String :=
  names ++ checkpoints.filterMap definedName

theorem names_behind_append (names : List String) (front rest : List Checkpoint) :
    namesBehind names (front ++ rest) = namesBehind (namesBehind names front) rest := by
  simp [namesBehind]

theorem mem_names_behind (names : List String) (checkpoints : List Checkpoint) (name : String) :
    name ∈ namesBehind names checkpoints ↔
      name ∈ names ∨ ∃ stop, .defined name stop ∈ checkpoints := by
  rw [namesBehind, List.mem_append, List.mem_filterMap]
  refine or_congr_right ⟨?_, ?_⟩
  · rintro ⟨checkpoint, member, names⟩
    cases checkpoint with
    | use _ => cases names
    | pattern _ _ => cases names
    | defined other stop =>
        cases names
        exact ⟨stop, member⟩
  · rintro ⟨stop, member⟩
    exact ⟨_, member, rfl⟩

section

variable [Pattern.Engine]

def fault (names : List String) : Checkpoint → Option CompileError
  | use name => if name.text ∈ names then none else some (.unresolved name.text name.span)
  | pattern _ source =>
      match Pattern.Engine.read source.text with
      | .ok _ => none
      | .error fault => some (.invalidPattern source.text fault source.span)
  | defined _ _ => none

def firstFault (names : List String) : List Checkpoint → Option CompileError
  | [] => none
  | next :: rest => (next.fault names).or (firstFault (namesBehind names [next]) rest)

theorem first_fault_append (names : List String) (front rest : List Checkpoint) :
    firstFault names (front ++ rest) =
      (firstFault names front).or (firstFault (namesBehind names front) rest) := by
  induction front generalizing names with
  | nil => simp [firstFault, namesBehind]
  | cons next front ih =>
      rw [List.cons_append, firstFault, ih, firstFault, Option.or_assoc, ← names_behind_append]
      rfl

theorem first_fault_some (names : List String) (checkpoints : List Checkpoint)
    (error : CompileError) :
    firstFault names checkpoints = some error ↔
      ∃ front next rest, checkpoints = front ++ next :: rest ∧ firstFault names front = none ∧
        next.fault (namesBehind names front) = some error := by
  constructor
  · intro found
    induction checkpoints generalizing names with
    | nil => cases found
    | cons next rest ih =>
        rw [firstFault, Option.or_eq_some_iff] at found
        obtain here | ⟨passed, later⟩ := found
        · exact ⟨[], next, rest, rfl, rfl, by simpa [namesBehind] using here⟩
        · obtain ⟨front, other, left, rfl, before, faulty⟩ := ih _ later
          refine ⟨next :: front, other, left, rfl, by rw [firstFault, passed, before]; rfl, ?_⟩
          rw [← names_behind_append] at faulty
          exact faulty
  · rintro ⟨front, next, rest, rfl, before, faulty⟩
    rw [first_fault_append, before, firstFault, faulty]
    rfl

theorem first_fault_at (names : List String) (front rest : List Checkpoint) (next : Checkpoint)
    (passed : firstFault names (front ++ next :: rest) = none) :
    next.fault (namesBehind names front) = none := by
  rw [first_fault_append, Option.or_eq_none_iff, firstFault, Option.or_eq_none_iff] at passed
  exact passed.2.1

end

end Checkpoint

def Draft.Knows (draft : Draft) (names : List String) : Prop :=
  ∀ name, (draft.meanings.get? name).isSome ↔ name ∈ names

theorem Draft.knows_empty : Draft.empty.Knows [] := by
  intro name
  simp [Draft.empty]

namespace Compilation

open Checkpoint

theorem outcome_resolve (name : Name) (draft : Draft) :
    (Draft.resolve name).outcome draft =
      match draft.meanings.get? name.text with
      | some meaning => (.ok meaning, draft)
      | none => (.error (.unresolved name.text name.span), draft) := by
  unfold Draft.resolve
  rw [outcome_bind]
  change (match draft.meanings.get? name.text with
    | some meaning => (pure meaning : Compilation Fragment)
    | none => throw (CompileError.unresolved name.text name.span)).outcome draft = _
  cases draft.meanings.get? name.text <;> rfl

section

variable [Pattern.Engine] {α β : Type}

-- The compilation comes by these checkpoints: it ends with the fault of the first one at fault, or
-- succeeds and has added the names that they define.
def Checks (compilation : Compilation α) (checkpoints : List Checkpoint) : Prop :=
  ∀ (draft : Draft) (names : List String), draft.Knows names →
    match firstFault names checkpoints with
    | some error => ∃ next, compilation.outcome draft = (.error error, next)
    | none => ∃ value next, compilation.outcome draft = (.ok value, next) ∧
        next.Knows (namesBehind names checkpoints)

theorem checks_bind (first : Compilation α) (rest : α → Compilation β)
    (front back : List Checkpoint) (before : Checks first front)
    (behind : ∀ value, Checks (rest value) back) : Checks (first >>= rest) (front ++ back) := by
  intro draft names known
  have begun := before draft names known
  rw [first_fault_append]
  simp only [outcome_bind]
  cases faulty : firstFault names front with
  | some error =>
      rw [faulty] at begun
      obtain ⟨next, ended⟩ := begun
      exact ⟨next, by rw [ended]⟩
  | none =>
      rw [faulty] at begun
      obtain ⟨value, between, passed, still⟩ := begun
      have ended := behind value between _ still
      simp only [passed, Option.none_or]
      rwa [← names_behind_append] at ended

-- What succeeds at no checkpoint and leaves the meanings of the names alone.
theorem checks_nothing (compilation : Compilation α)
    (passes : ∀ draft, ∃ value next, compilation.outcome draft = (.ok value, next) ∧
      next.meanings = draft.meanings) : Checks compilation [] := by
  intro draft names known
  obtain ⟨value, next, passed, same⟩ := passes draft
  refine ⟨value, next, passed, fun name => ?_⟩
  rw [same, known name]
  simp [namesBehind]

theorem checks_pure (value : α) : Checks (pure value) [] :=
  checks_nothing _ fun draft => ⟨value, draft, rfl, rfl⟩

theorem checks_register (defined : Option String) (procedure : Procedure) :
    Checks (Draft.register defined procedure) [] :=
  checks_nothing _ fun draft => ⟨_, draft.push defined procedure, rfl, rfl⟩

theorem checks_joined (parts : List Fragment) : Checks (Draft.joined parts) [] := by
  unfold Draft.joined
  match joinConstants parts with
  | [] => exact checks_pure _
  | [part] => exact checks_pure part
  | first :: second :: rest => exact checks_register _ _

theorem checks_resolve (name : Name) : Checks (Draft.resolve name) [.use name] := by
  intro draft names known
  have settled := known name.text
  have ran := outcome_resolve name draft
  cases meant : draft.meanings.get? name.text with
  | none =>
      have absent : name.text ∉ names := by simpa [meant] using settled
      rw [meant] at ran
      simp only [firstFault, fault, if_neg absent, Option.some_or]
      exact ⟨draft, ran⟩
  | some meaning =>
      have present : name.text ∈ names := by simpa [meant] using settled
      rw [meant] at ran
      simp only [firstFault, fault, if_pos present, Option.or_none]
      exact ⟨meaning, draft, ran, by simpa [namesBehind, definedName, List.filterMap] using known⟩

theorem checks_read_pattern (op : Span) (source : Literal) :
    Checks (Draft.readPattern source) [.pattern op source] := by
  intro draft names known
  cases read : Pattern.Engine.read source.text with
  | error bad =>
      simp only [firstFault, fault, read, Option.some_or]
      exact ⟨draft, by rw [Draft.readPattern, read]; rfl⟩
  | ok pattern =>
      simp only [firstFault, fault, read, Option.or_none]
      exact ⟨pattern, draft, by rw [Draft.readPattern, read]; rfl,
        by simpa [namesBehind, definedName, List.filterMap] using known⟩

theorem checks_bind_name (name : String) (meaning : Fragment) (stop : Nat) :
    Checks (Draft.bind name meaning) [.defined name stop] := by
  intro draft names known
  refine ⟨(), { draft with meanings := draft.meanings.insert name meaning }, rfl, fun other => ?_⟩
  rw [Bindings.get?_insert]
  by_cases same : name = other
  · simp [same, namesBehind, definedName]
  · simp [same, Ne.symm same, namesBehind, definedName, known other]

end

end Compilation

namespace Draft

open Compilation

section

variable [Pattern.Engine]

mutual

theorem compile_checks (node : Node) : Checks (compile node) node.checkpoints := by
  cases node with
  | literal l =>
      rw [compile, Node.checkpoints]
      exact checks_pure _
  | name n =>
      rw [compile, Node.checkpoints]
      exact checks_resolve n
  | group opening statements closing =>
      rw [compile, Node.checkpoints, ← List.append_nil (Node.checkpointsAll statements)]
      exact checks_bind _ _ _ _ (compile_all_checks statements) checks_joined
  | define op n body =>
      rw [compile, Node.checkpoints]
      refine checks_bind _ _ _ _ (compile_checks body) fun meaning => ?_
      cases meaning with
      | constant text =>
          exact checks_bind _ _ [_] [] (checks_bind_name _ _ _) fun _ => checks_pure _
      | reference index =>
          exact checks_bind _ _ [] [_] (checks_register _ _) fun _ =>
            checks_bind _ _ [_] [] (checks_bind_name _ _ _) fun _ => checks_pure _
  | choose op opening alternatives closing =>
      rw [compile, Node.checkpoints, ← List.append_nil (Node.checkpointsAll alternatives)]
      refine checks_bind _ _ _ _ (compile_all_checks alternatives) fun fragments => ?_
      cases fragments with
      | nil => exact checks_pure _
      | cons first rest => exact checks_register _ _
  | optional op body =>
      rw [compile, Node.checkpoints, ← List.append_nil body.checkpoints]
      exact checks_bind _ _ _ _ (compile_checks body) fun _ => checks_register _ _
  | regex op source matched unmatched =>
      rw [compile, Node.checkpoints]
      refine checks_bind _ _ [_] _ (checks_read_pattern op source) fun pattern => ?_
      refine checks_bind _ _ _ _ (compile_checks matched) fun accepted => ?_
      rw [← List.append_nil unmatched.checkpoints]
      exact checks_bind _ _ _ _ (compile_checks unmatched) fun _ => checks_register _ _

theorem compile_all_checks (nodes : List Node) :
    Checks (compileAll nodes) (Node.checkpointsAll nodes) := by
  cases nodes with
  | nil =>
      rw [compileAll, Node.checkpointsAll]
      exact checks_pure _
  | cons node rest =>
      rw [compileAll, Node.checkpointsAll]
      refine checks_bind _ _ _ _ (compile_checks node) fun fragment => ?_
      rw [← List.append_nil (Node.checkpointsAll rest)]
      exact checks_bind _ _ _ _ (compile_all_checks rest) fun _ => checks_pure _

end

theorem compile_root_checks (grammar : Grammar) :
    Checks (compileRoot grammar) (Node.checkpointsAll grammar.statements) := by
  rw [compileRoot, ← List.append_nil (Node.checkpointsAll grammar.statements)]
  exact checks_bind _ _ _ _ (compile_all_checks grammar.statements) checks_joined

end

end Draft

namespace Grammar

section

variable [Pattern.Engine]

def checkpoints (grammar : Grammar) : List Checkpoint := Node.checkpointsAll grammar.statements

theorem compile_first_fault (grammar : Grammar) :
    match Checkpoint.firstFault [] grammar.checkpoints with
    | some error => grammar.compile = .error error
    | none => ∃ generator, grammar.compile = .ok generator := by
  have ended := Draft.compile_root_checks grammar Draft.empty [] Draft.knows_empty
  unfold Grammar.compile Grammar.compileReporting
  unfold Compilation.outcome at ended
  cases faulty : Checkpoint.firstFault [] grammar.checkpoints with
  | some error =>
      rw [show Checkpoint.firstFault [] (Node.checkpointsAll grammar.statements) = some error
        from faulty] at ended
      obtain ⟨next, failed⟩ := ended
      simp only [failed]
  | none =>
      rw [show Checkpoint.firstFault [] (Node.checkpointsAll grammar.statements) = none
        from faulty] at ended
      obtain ⟨entry, next, passed, -⟩ := ended
      exact ⟨_, by simp only [passed]; rfl⟩

theorem compile_error_iff (grammar : Grammar) (error : CompileError) :
    grammar.compile = .error error ↔ Checkpoint.firstFault [] grammar.checkpoints = some error := by
  have ended := grammar.compile_first_fault
  cases faulty : Checkpoint.firstFault [] grammar.checkpoints with
  | some other =>
      rw [faulty] at ended
      simp [ended]
  | none =>
      rw [faulty] at ended
      obtain ⟨generator, passed⟩ := ended
      simp [passed]

theorem compile_ok_passes (grammar : Grammar) (generator : Generator)
    (compiled : grammar.compile = .ok generator) :
    Checkpoint.firstFault [] grammar.checkpoints = none := by
  have ended := grammar.compile_first_fault
  cases faulty : Checkpoint.firstFault [] grammar.checkpoints with
  | none => rfl
  | some error =>
      rw [faulty, compiled] at ended
      cases ended

end

end Grammar

end TextGrammar
