import TextGrammar.Proofs.RecursionLimit

set_option autoImplicit false

namespace TextGrammar

def Environment.Joins (joined first second : Environment) : Prop :=
  ∀ name, joined.get? name = (first.get? name).or (second.get? name)

def Widened (more : Environment) (result wide : Result) : Prop :=
  match result with
  | .error error => wide = .error error
  | .ok (text, after) => ∃ joined, wide = .ok (text, joined) ∧ Environment.Joins joined after more

def Resolved (result : Result) : Prop := ∀ name place, result ≠ .error (.unresolved name place)

theorem joins_bound (joined environment more : Environment) (name : String) (body : Node)
    (joins : joined.Joins environment more) (bound : environment.get? name = some body) :
    joined.get? name = some body := by
  rw [joins name, bound, Option.some_or]

theorem joins_insert (joined environment more : Environment) (name : String) (body : Node)
    (joins : joined.Joins environment more) :
    Environment.Joins (joined.insert name body) (environment.insert name body) more := by
  intro other
  rw [Bindings.get?_insert, Bindings.get?_insert]
  by_cases same : name = other
  · rw [if_pos same, if_pos same, Option.some_or]
  · rw [if_neg same, if_neg same]
    exact joins other

section

variable [Pattern.Engine]

-- By induction on the evaluation. A definition binds its name on both sides, whether the name is
-- among those added or not.
theorem evaluates_widened (setting : Setting) (more : Environment) (task : Task)
    (environment : Environment) (run last : Run) (result : Result)
    (evaluates : Evaluates setting task environment run result last) (resolved : Resolved result)
    (joined : Environment) (joins : joined.Joins environment more) :
    ∃ wide, Evaluates setting task joined run wide last ∧ Widened more result wide := by
  induction evaluates generalizing joined with
  | literal l _ run => exact ⟨_, .literal l joined run, joined, rfl, joins⟩
  | unresolved n => exact absurd rfl (resolved n.text n.span)
  | limited n _ run body bound full =>
      exact ⟨_, .limited n joined run body (joins_bound _ _ _ _ _ joins bound) full, rfl⟩
  | expanded n _ run last body _ bound free _ ih =>
      obtain ⟨wide, inner, widened⟩ := ih resolved joined joins
      have found := joins_bound _ _ _ _ _ joins bound
      exact ⟨wide, .expanded n joined run last body wide found free inner, widened⟩
  | group opening closing statements _ run last _ _ ih =>
      obtain ⟨wide, inner, widened⟩ := ih resolved joined joins
      exact ⟨wide, .group opening closing statements joined run last wide inner, widened⟩
  | define op n body _ run =>
      exact ⟨_, .define op n body joined run, _, rfl, joins_insert _ _ _ _ _ joins⟩
  | chooseNone op opening closing _ run =>
      exact ⟨_, .chooseNone op opening closing joined run, joined, rfl, joins⟩
  | choose op opening closing alternatives _ run last _ index drawn chosen some draw found _ ih =>
      obtain ⟨wide, inner, widened⟩ := ih resolved joined joins
      exact ⟨wide, .choose op opening closing alternatives joined run last wide index drawn chosen
        some draw found inner, widened⟩
  | chooseBeyond op opening closing alternatives _ run index drawn some draw beyond =>
      exact ⟨_, .chooseBeyond op opening closing alternatives joined run index drawn some draw
        beyond, joined, rfl, joins⟩
  | taken op body _ run last _ drawn draw _ ih =>
      obtain ⟨wide, inner, widened⟩ := ih resolved joined joins
      exact ⟨wide, .taken op body joined run last wide drawn draw inner, widened⟩
  | passed op body _ run drawn draw =>
      exact ⟨_, .passed op body joined run drawn draw, joined, rfl, joins⟩
  | invalid op source matched unmatched _ run fault read =>
      exact ⟨_, .invalid op source matched unmatched joined run fault read, rfl⟩
  | matched op source matched unmatched _ run last _ pattern read accepts _ ih =>
      obtain ⟨wide, inner, widened⟩ := ih resolved joined joins
      exact ⟨wide, .matched op source matched unmatched joined run last wide pattern read accepts
        inner, widened⟩
  | unmatched op source matched unmatched _ run last _ pattern read refuses _ ih =>
      obtain ⟨wide, inner, widened⟩ := ih resolved joined joins
      exact ⟨wide, .unmatched op source matched unmatched joined run last wide pattern read refuses
        inner, widened⟩
  | nil output _ run => exact ⟨_, .nil output joined run, joined, rfl, joins⟩
  | failed output node rest _ run last error _ ih =>
      obtain ⟨wide, head, rfl⟩ := ih resolved joined joins
      exact ⟨_, .failed output node rest joined run last error head, rfl⟩
  | cons output text node rest _ between run middle last _ _ _ headWidened tailWidened =>
      obtain ⟨_, head, joinedBetween, rfl, joinsBetween⟩ := headWidened nofun joined joins
      obtain ⟨wide, tail, widened⟩ := tailWidened resolved joinedBetween joinsBetween
      exact ⟨wide, .cons output text node rest joined joinedBetween run middle last wide head tail,
        widened⟩

theorem larger_environment_agrees (grammar : Grammar) (setting : Setting)
    (environment more joined : Environment) (drawn : Nat)
    (joins : ∀ name, joined.get? name = (environment.get? name).or (more.get? name))
    (resolved : ∀ name place,
      (grammar.sample setting environment drawn).result ≠ .error (.unresolved name place)) :
    (∀ error, (grammar.sample setting environment drawn).result = .error error →
      (grammar.sample setting joined drawn).result = .error error) ∧
    (∀ text after, (grammar.sample setting environment drawn).result = .ok (text, after) →
      ∃ wide, (grammar.sample setting joined drawn).result = .ok (text, wide) ∧
        ∀ name, wide.get? name = (after.get? name).or (more.get? name)) ∧
    (grammar.sample setting joined drawn).drawn =
      (grammar.sample setting environment drawn).drawn ∧
    (grammar.sample setting joined drawn).decisions =
      (grammar.sample setting environment drawn).decisions := by
  obtain ⟨result, last, evaluates, same⟩ := sample_outcome grammar setting environment drawn
  rw [same] at resolved ⊢
  obtain ⟨wide, evaluatesWide, widened⟩ := evaluates_widened setting more _ _ _ last result evaluates
    resolved joined joins
  rw [evaluates_sample grammar setting joined drawn wide last evaluatesWide]
  refine ⟨?_, ?_, rfl, rfl⟩
  · rintro error rfl
    exact widened
  · rintro text after rfl
    exact widened

end

-- (= b a b ?c)
def overriding : Grammar where
  opening := ⟨0, 1⟩
  statements :=
    [.define ⟨1, 1⟩ ⟨"b", ⟨3, 1⟩⟩ (.name ⟨"a", ⟨5, 1⟩⟩), .name ⟨"b", ⟨7, 1⟩⟩,
      .optional ⟨9, 1⟩ (.name ⟨"c", ⟨10, 1⟩⟩)]
  closing := ⟨11, 1⟩

theorem larger_environment_agrees_overriding :
    let text (text : String) : Node := .literal ⟨text, '\'', default⟩
    let environment : Environment := Bindings.empty.insert "a" (text "x")
    let more : Environment := (Bindings.empty.insert "b" (text "y")).insert "c" (text "z")
    let joined : Environment := more.insert "a" (text "x")
    let setting : Setting := ⟨fun _ => 0x8000000000000000, "", 0⟩
    (∀ name, joined.get? name = (environment.get? name).or (more.get? name)) ∧
      (∀ name place,
        (overriding.sample setting environment 0).result ≠ .error (.unresolved name place)) ∧
      ∃ wide, (overriding.sample setting joined 0).result = .ok ("x", wide) ∧
        wide.get? "b" = some (.name ⟨"a", ⟨5, 1⟩⟩) ∧ wide.get? "c" = some (text "z") ∧
        (overriding.sample setting joined 0).drawn = 1 := by
  intro text environment more joined setting
  have joins : ∀ name, joined.get? name = (environment.get? name).or (more.get? name) := by
    intro name
    rw [Bindings.get?_insert more, Bindings.get?_insert Bindings.empty "a"]
    by_cases same : "a" = name
    · rw [if_pos same, if_pos same, Option.some_or]
    · rw [if_neg same, if_neg same, Bindings.get?_empty, Option.none_or]
  have sampled : (overriding.sample setting environment 0).result =
      .ok ("x", environment.insert "b" (.name ⟨"a", ⟨5, 1⟩⟩)) := rfl
  have resolved : ∀ name place,
      (overriding.sample setting environment 0).result ≠ .error (.unresolved name place) := by
    intro name place
    rw [sampled]
    nofun
  obtain ⟨-, texts, drawn, -⟩ :=
    larger_environment_agrees overriding setting environment more joined 0 joins resolved
  obtain ⟨wide, found, binds⟩ := texts _ _ sampled
  refine ⟨joins, resolved, wide, found, ?_, ?_, drawn⟩
  · rw [binds]
    rfl
  · rw [binds]
    rfl

end TextGrammar
