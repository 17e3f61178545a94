import TextGrammar.Proofs.Agreement
import TextGrammar.Proofs.Nesting

set_option autoImplicit false

namespace TextGrammar

-- What names may be bound to in a run: the bodies of all definitions in the grammar and in the
-- statements of the environment, and these statements themselves.
def Grammar.bodies (grammar : Grammar) (environment : Environment) : List Definition :=
  grammar.definitions ++ Node.definitionsAll environment.values ++
    environment.entries.map fun entry => ⟨entry.1, entry.2⟩

def Refers (bodies : List Definition) (name other : String) : Prop :=
  ∃ definition ∈ bodies, definition.name = name ∧ definition.body.mentions other = true

def ClosedUnder (bodies : List Definition) : Prop :=
  ∀ definition ∈ bodies, ∀ inner ∈ definition.body.definitions, inner ∈ bodies

theorem definitions_all_member (nodes : List Node) (node : Node) (member : node ∈ nodes) :
    ∀ definition ∈ node.definitions, definition ∈ Node.definitionsAll nodes := by
  obtain ⟨index, inside, found⟩ := List.mem_iff_getElem.mp member
  exact chosen_definitions nodes index node (by simp [inside, found])

mutual

theorem definitions_closed (node : Node) : ClosedUnder node.definitions := by
  cases node with
  | literal | name =>
      intro definition member
      simp [Node.definitions] at member
  | group opening statements closing => exact definitions_all_closed statements
  | define op n body =>
      intro definition member inner inside
      rcases List.mem_append.mp member with early | last
      · exact List.mem_append_left _ (definitions_closed body definition early inner inside)
      · obtain rfl := List.mem_singleton.mp last
        exact List.mem_append_left _ inside
  | choose op opening alternatives closing => exact definitions_all_closed alternatives
  | optional op body => exact definitions_closed body
  | regex op pattern matched unmatched =>
      intro definition member inner inside
      rcases List.mem_append.mp member with early | late
      · exact List.mem_append_left _ (definitions_closed matched definition early inner inside)
      · exact List.mem_append_right _ (definitions_closed unmatched definition late inner inside)

theorem definitions_all_closed (nodes : List Node) : ClosedUnder (Node.definitionsAll nodes) := by
  cases nodes with
  | nil =>
      intro definition member
      simp [Node.definitionsAll] at member
  | cons node rest =>
      intro definition member inner inside
      rcases List.mem_append.mp member with early | late
      · exact List.mem_append_left _ (definitions_closed node definition early inner inside)
      · exact List.mem_append_right _ (definitions_all_closed rest definition late inner inside)

end

theorem bodies_closed (grammar : Grammar) (environment : Environment) :
    ClosedUnder (grammar.bodies environment) := by
  intro definition member inner inside
  apply List.mem_append_left
  rcases List.mem_append.mp member with written | bound
  · rcases List.mem_append.mp written with own | stored
    · exact List.mem_append_left _
        (definitions_all_closed grammar.statements definition own inner inside)
    · exact List.mem_append_right _
        (definitions_all_closed environment.values definition stored inner inside)
  · obtain ⟨entry, stored, rfl⟩ := List.mem_map.mp bound
    exact List.mem_append_right _
      (definitions_all_member _ entry.2 (List.mem_map_of_mem stored) inner inside)

def innermost : List Call → Option String
  | [] => none
  | .expansion name :: _ => some name
  | .sequence .. :: calls | .statement :: calls => innermost calls

structure Fits (bodies : List Definition) (inside : Option String) (uses : List Name)
    (definitions : List Definition) : Prop where
  uses : ∀ name, inside = some name → ∀ use ∈ uses, Refers bodies name use.text
  definitions : ∀ definition ∈ definitions, definition ∈ bodies

def Linked (bodies : List Definition) : List Call → Prop
  | [] => True
  | .statement :: calls => Linked bodies calls
  | .sequence _ rest :: calls =>
      Fits bodies (innermost calls) (Node.usesAll rest) (Node.definitionsAll rest) ∧
        Linked bodies calls
  | .expansion name :: calls =>
      (∀ outer, innermost calls = some outer → Refers bodies outer name) ∧ Linked bodies calls

def Environment.Bodied (environment : Environment) (bodies : List Definition) : Prop :=
  ∀ (name : String) (body : Node), environment.get? name = some body → ⟨name, body⟩ ∈ bodies

def Moment.Fits (bodies : List Definition) (calls : List Call) : Moment → Prop
  | .evaluate task environment =>
      TextGrammar.Fits bodies (innermost calls) task.uses task.definitions ∧
        environment.Bodied bodies
  | .returned result =>
      (∀ text after, result = .ok (text, after) → Environment.Bodied after bodies) ∧
        ∀ name limit place, result ≠ .error (.recursionLimit name limit place)

structure Traced (bodies : List Definition) (state : State) : Prop where
  linked : Linked bodies state.calls
  moment : state.moment.Fits bodies state.calls

theorem fits_part (bodies : List Definition) (inside : Option String) (uses part : List Name)
    (definitions some : List Definition) (fits : Fits bodies inside uses definitions)
    (used : ∀ use ∈ part, use ∈ uses) (defined : ∀ definition ∈ some, definition ∈ definitions) :
    Fits bodies inside part some :=
  ⟨fun name inner use member => fits.uses name inner use (used use member),
    fun definition member => fits.definitions definition (defined definition member)⟩

theorem fits_append (bodies : List Definition) (inside : Option String) (uses others : List Name)
    (definitions later : List Definition)
    (fits : Fits bodies inside (uses ++ others) (definitions ++ later)) :
    Fits bodies inside uses definitions ∧ Fits bodies inside others later :=
  ⟨fits_part bodies inside _ _ _ _ fits (fun _ => List.mem_append_left _)
      (fun _ => List.mem_append_left _),
    fits_part bodies inside _ _ _ _ fits (fun _ => List.mem_append_right _)
      (fun _ => List.mem_append_right _)⟩

theorem bodied_insert (environment : Environment) (bodies : List Definition) (name : String)
    (body : Node) (known : environment.Bodied bodies) (member : ⟨name, body⟩ ∈ bodies) :
    Environment.Bodied (environment.insert name body) bodies := by
  intro other found bound
  rw [Bindings.get?_insert] at bound
  by_cases same : name = other
  · rw [if_pos same] at bound
    cases bound
    exact same ▸ member
  · rw [if_neg same] at bound
    exact known other found bound

theorem open_leads (bodies : List Definition) (name : String) (calls : List Call)
    (linked : Linked bodies calls) (opened : 0 < openExpansions name calls) :
    ∃ inner, innermost calls = some inner ∧ Relation.ReflTransGen (Refers bodies) name inner := by
  induction calls with
  | nil => exact absurd opened (Nat.lt_irrefl 0)
  | cons call calls ih =>
      cases call with
      | statement => exact ih linked opened
      | sequence output rest => exact ih linked.2 opened
      | expansion other =>
          refine ⟨other, rfl, ?_⟩
          rw [openExpansions] at opened
          by_cases same : other = name
          · rw [same]
          · rw [if_neg same] at opened
            obtain ⟨inner, found, leads⟩ := ih linked.2 opened
            exact leads.tail (linked.1 inner found)

-- A use of a name inside its own expansion would close a cycle.
theorem used_closed (bodies : List Definition) (n : Name) (calls : List Call)
    (definitions : List Definition)
    (acyclic : ∀ name, ¬ Relation.TransGen (Refers bodies) name name)
    (linked : Linked bodies calls) (fits : Fits bodies (innermost calls) [n] definitions) :
    openExpansions n.text calls = 0 := by
  by_contra opened
  obtain ⟨inner, found, leads⟩ := open_leads bodies n.text calls linked (Nat.pos_of_ne_zero opened)
  have edge := fits.uses inner found n (List.mem_singleton_self n)
  exact acyclic n.text (Relation.TransGen.tail' leads edge)

section

variable [Pattern.Engine]

theorem step_traced (setting : Setting) (bodies : List Definition) (state next : State)
    (closed : ClosedUnder bodies)
    (acyclic : ∀ name, ¬ Relation.TransGen (Refers bodies) name name)
    (step : Step setting state next) (counted : Counted setting.limit state)
    (traced : Traced bodies state) : Traced bodies next := by
  obtain ⟨linked, moment⟩ := traced
  cases step with
  | literal | chooseNone | passed | finish =>
      refine ⟨linked, ?_, nofun⟩
      intro text after same
      cases same
      exact moment.2
  | unresolved | invalid => exact ⟨linked, nofun, nofun⟩
  | limited n body calls environment run bound full =>
      have none := used_closed bodies n calls _ acyclic linked moment.1
      have exactly := counted.exactly n.text
      dsimp only at exactly
      omega
  | expand n body calls environment run bound free =>
      obtain ⟨fits, known⟩ := moment
      have member := known n.text body bound
      have edge := fun outer found => fits.uses outer found n (List.mem_singleton_self n)
      refine ⟨⟨edge, linked⟩, ⟨?_, ?_⟩, known⟩
      · rintro name ⟨⟩ use used
        exact ⟨_, member, rfl, (body.mentions_iff use.text).mpr ⟨use, used, rfl⟩⟩
      · exact fun inner inside => closed _ member inner inside
  | group | taken => exact ⟨linked, moment⟩
  | define op n body calls environment run =>
      obtain ⟨fits, known⟩ := moment
      refine ⟨linked, ?_, nofun⟩
      intro text after same
      cases same
      exact bodied_insert environment bodies n.text body known
        (fits.definitions ⟨n.text, body⟩ (List.mem_append_right _ (List.mem_singleton_self _)))
  | choose op opening closing alternatives calls environment run index drawn chosen found =>
      obtain ⟨fits, known⟩ := moment
      exact ⟨linked, fits_part bodies _ _ _ _ _ fits (chosen_uses _ _ _ found)
        (chosen_definitions _ _ _ found), known⟩
  | tested op source matched unmatched calls environment run pattern =>
      obtain ⟨fits, known⟩ := moment
      obtain ⟨first, second⟩ := fits_append bodies _ _ _ _ _ fits
      cases Pattern.Engine.isMatch pattern setting.input with
      | true => exact ⟨linked, first, known⟩
      | false => exact ⟨linked, second, known⟩
  | begin output node rest calls environment run =>
      obtain ⟨fits, known⟩ := moment
      obtain ⟨first, others⟩ := fits_append bodies _ _ _ _ _ fits
      exact ⟨⟨others, linked⟩, first, known⟩
  | append output text rest calls environment run =>
      exact ⟨linked.2, linked.1, moment.1 text environment rfl⟩
  | give => exact ⟨linked, moment⟩
  | failed | leave => exact ⟨linked.2, moment⟩

theorem reaches_traced (setting : Setting) (bodies : List Definition) (state later : State)
    (closed : ClosedUnder bodies)
    (acyclic : ∀ name, ¬ Relation.TransGen (Refers bodies) name name)
    (reaches : Reaches setting state later) (counted : Counted setting.limit state)
    (traced : Traced bodies state) : Traced bodies later := by
  induction reaches with
  | refl => exact traced
  | tail earlier step ih =>
      exact step_traced setting bodies _ _ closed acyclic step
        (reaches_counted setting _ _ earlier counted) ih

omit [Pattern.Engine] in
theorem start_traced (grammar : Grammar) (environment : Environment) (drawn : Nat) :
    Traced (grammar.bodies environment) (.start grammar environment drawn) := by
  refine ⟨trivial, ⟨nofun, fun definition member => ?_⟩, fun name body bound => ?_⟩
  · exact List.mem_append_left _ (List.mem_append_left _ member)
  · have stored := environment.get?_member name body bound
    exact List.mem_append_right _ (List.mem_map_of_mem stored)

-- Whatever is decided and whatever the limit, zero included, a run never reports the limit, and the
-- run that random words decide is one of these.
theorem acyclic_never_limited (grammar : Grammar) (environment : Environment)
    (acyclic : ∀ name, ¬ Relation.TransGen (Refers (grammar.bodies environment)) name name)
    (setting : Setting) (drawn : Nat) :
    (∀ state, Reaches setting (.start grammar environment drawn) state →
      ∀ name limit place, state.moment ≠ .returned (.error (.recursionLimit name limit place))) ∧
    (setting.words.Serve drawn (grammar.sample setting environment drawn).decisions →
      ∀ name limit place, (grammar.sample setting environment drawn).result ≠
        .error (.recursionLimit name limit place)) := by
  have unlimited : ∀ state, Reaches setting (.start grammar environment drawn) state →
      ∀ name limit place, state.moment ≠ .returned (.error (.recursionLimit name limit place)) := by
    intro state reaches name limit place returned
    have traced := reaches_traced setting _ _ state (bodies_closed grammar environment) acyclic
      reaches (start_counted grammar setting environment drawn)
      (start_traced grammar environment drawn)
    have fits := traced.moment
    rw [returned] at fits
    exact fits.2 name limit place rfl
  refine ⟨unlimited, fun serve name limit place failed => ?_⟩
  obtain ⟨last, reaches, -⟩ := sample_reached grammar setting environment drawn serve
  exact unlimited _ reaches name limit place (congrArg Moment.returned failed)

end

theorem ranked_acyclic (bodies : List Definition) (rank : String → Nat)
    (ranked : ∀ definition ∈ bodies, definition.RanksAbove rank) (name : String) :
    ¬ Relation.TransGen (Refers bodies) name name := by
  have lower : ∀ first last, Refers bodies first last → rank last < rank first := by
    rintro first last ⟨definition, member, rfl, mentions⟩
    obtain ⟨use, used, rfl⟩ := (definition.body.mentions_iff _).mp mentions
    exact ranked definition member use used
  have falls : ∀ first last, Relation.TransGen (Refers bodies) first last →
      rank last < rank first := by
    intro first last leads
    induction leads with
    | single edge => exact lower _ _ edge
    | tail _ edge ih => exact Nat.lt_trans (lower _ _ edge) ih
  exact fun leads => Nat.lt_irrefl _ (falls name name leads)

-- (= a b = b ?(= c 'x' c) a = b c a)
def rebinding : Grammar where
  opening := ⟨0, 1⟩
  statements :=
    [.define ⟨1, 1⟩ ⟨"a", ⟨3, 1⟩⟩ (.name ⟨"b", ⟨5, 1⟩⟩),
      .define ⟨7, 1⟩ ⟨"b", ⟨9, 1⟩⟩
        (.optional ⟨11, 1⟩
          (.group ⟨12, 1⟩
            [.define ⟨13, 1⟩ ⟨"c", ⟨15, 1⟩⟩ (.literal ⟨"x", '\'', ⟨17, 3⟩⟩), .name ⟨"c", ⟨21, 1⟩⟩]
            ⟨22, 1⟩)),
      .name ⟨"a", ⟨24, 1⟩⟩,
      .define ⟨26, 1⟩ ⟨"b", ⟨28, 1⟩⟩ (.name ⟨"c", ⟨30, 1⟩⟩),
      .name ⟨"a", ⟨32, 1⟩⟩]
  closing := ⟨33, 1⟩

theorem acyclic_never_limited_rebinding :
    let environment : Environment :=
      (Bindings.empty.insert "c" (.literal ⟨"z", '\'', default⟩)).insert "b" (.name ⟨"c", default⟩)
    let setting : Setting := ⟨fun _ => 0, "", 0⟩
    (∀ name, ¬ Relation.TransGen (Refers (rebinding.bodies environment)) name name) ∧
      ((rebinding.sample setting environment 0).result.map Prod.fst = .ok "xx") ∧
      (∀ state, Reaches setting (.start rebinding environment 0) state →
        ∀ name limit place, state.moment ≠ .returned (.error (.recursionLimit name limit place))) ∧
      ∀ name limit place, (rebinding.sample setting environment 0).result ≠
        .error (.recursionLimit name limit place) := by
  intro environment setting
  have ranked : ∀ definition ∈ rebinding.bodies environment,
      definition.RanksAbove fun name => if name = "a" then 2 else if name = "b" then 1 else 0 := by
    unfold Definition.RanksAbove
    decide
  have acyclic := ranked_acyclic _ _ ranked
  have accepted : ∀ count drawn, 0 < count → setting.words.Accepts count drawn := fun count drawn _ =>
    ⟨0, by simp [setting, indexOfWord]⟩
  obtain ⟨unlimited, sampled⟩ := acyclic_never_limited rebinding environment acyclic setting 0
  exact ⟨acyclic, rfl, unlimited, sampled (setting.words.serve_accepted accepted 0 _)⟩

end TextGrammar
