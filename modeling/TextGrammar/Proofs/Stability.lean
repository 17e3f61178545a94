import TextGrammar.Proofs.Scope
import Mathlib.Data.List.Nodup

set_option autoImplicit false

namespace TextGrammar

def Fresh (definitions : List Definition) (scope : Scope) : Prop :=
  (∀ definition ∈ definitions, ¬ Binds scope definition.name) ∧
    (definitions.map Definition.name).Nodup

theorem fresh_append (first second : List Definition) (scope between : Scope)
    (fresh : Fresh (first ++ second) scope)
    (binds : ∀ name, Binds between name ↔ Binds scope name ∨ ∃ body, ⟨name, body⟩ ∈ first) :
    Fresh first scope ∧ Fresh second between := by
  obtain ⟨unbound, single⟩ := fresh
  rw [List.map_append] at single
  obtain ⟨left, right, apart⟩ := List.nodup_append.mp single
  refine ⟨⟨fun d member => unbound d (List.mem_append_left _ member), left⟩, ?_, right⟩
  intro d member bound
  rcases (binds d.name).mp bound with early | ⟨body, defined⟩
  · exact unbound d (List.mem_append_right _ member) early
  · exact apart d.name (List.mem_map.mpr ⟨_, defined, rfl⟩) d.name
      (List.mem_map.mpr ⟨d, member, rfl⟩) rfl

def Ordered (rank : String → Nat) (definitions : List Definition) (scope : Scope) : Prop :=
  (∀ name, Binds scope name → ∀ definition ∈ definitions, rank name < rank definition.name) ∧
    definitions.Pairwise fun earlier later => rank earlier.name < rank later.name

theorem ordered_append (rank : String → Nat) (first second : List Definition)
    (scope between : Scope) (ordered : Ordered rank (first ++ second) scope)
    (binds : ∀ name, Binds between name ↔ Binds scope name ∨ ∃ body, ⟨name, body⟩ ∈ first) :
    Ordered rank first scope ∧ Ordered rank second between := by
  obtain ⟨above, rising⟩ := ordered
  obtain ⟨left, right, across⟩ := List.pairwise_append.mp rising
  refine ⟨⟨fun name bound d member => above name bound d (List.mem_append_left _ member), left⟩,
    fun name bound d member => ?_, right⟩
  rcases (binds name).mp bound with early | ⟨body, defined⟩
  · exact above name early d (List.mem_append_right _ member)
  · exact across ⟨name, body⟩ defined d member

def Definition.RanksAbove (definition : Definition) (rank : String → Nat) : Prop :=
  ∀ use ∈ definition.body.uses, rank use.text < rank definition.name

variable [Pattern.Engine]

def Definition.Holds (definition : Definition) (table : Scope) : Prop :=
  ∃ action, table.get? definition.name = some action ∧
    definition.body.meaningIn table = some action

mutual

-- Nothing is bound twice, so what is bound under way is still bound so in every later table.
theorem meaning_stays (node : Node) (scope after : Scope) (action : Action)
    (means : node.meaning scope = some (action, after)) (fresh : Fresh node.definitions scope) :
    Grows scope after ∧ ∀ table, Grows after table →
      node.meaningIn table = some action ∧ ∀ d ∈ node.definitions, d.Holds table := by
  cases node with
  | literal l =>
      cases means
      exact ⟨grows_refl _, fun table _ => ⟨rfl, by simp [Node.definitions]⟩⟩
  | name n =>
      obtain ⟨bound, rfl⟩ := (Node.means_name _ _ _ _).mp means
      exact ⟨grows_refl _, fun table grown => ⟨grown _ _ bound, by simp [Node.definitions]⟩⟩
  | group opening statements closing =>
      obtain ⟨actions, inner, rfl⟩ := (Node.means_group _ _ _ _ _ _).mp means
      obtain ⟨grown, stays⟩ := meaning_all_stays statements scope after actions inner fresh
      refine ⟨grown, fun table later => ?_⟩
      obtain ⟨still, hold⟩ := stays table later
      exact ⟨by simp [Node.meaningIn, still], hold⟩
  | define op n body =>
      obtain ⟨action, between, inner, rfl, rfl⟩ := (Node.means_define _ _ _ _ _ _).mp means
      obtain ⟨early, own⟩ := fresh_append body.definitions [⟨n.text, body⟩] scope between fresh
        fun name => meaning_binds body scope between action name inner
      obtain ⟨grown, stays⟩ := meaning_stays body scope between action inner early
      have unbound : ¬ Binds between n.text := own.1 ⟨n.text, body⟩ (by simp)
      have inserted : Grows between (between.insert n.text action) := by
        intro name other found
        rw [Bindings.get?_insert, if_neg, found]
        rintro rfl
        exact unbound (by simp [Binds, found])
      refine ⟨grows_trans _ _ _ grown inserted, fun table later => ⟨rfl, ?_⟩⟩
      obtain ⟨still, hold⟩ := stays table (grows_trans _ _ _ inserted later)
      intro d member
      rcases List.mem_append.mp member with inside | last
      · exact hold d inside
      · obtain rfl := List.mem_singleton.mp last
        exact ⟨action, later _ _ (by simp [Bindings.get?_insert]), still⟩
  | choose op opening alternatives closing =>
      obtain ⟨actions, inner, rfl⟩ := (Node.means_choose _ _ _ _ _ _ _).mp means
      obtain ⟨grown, stays⟩ := meaning_all_stays alternatives scope after actions inner fresh
      refine ⟨grown, fun table later => ?_⟩
      obtain ⟨still, hold⟩ := stays table later
      exact ⟨by simp [Node.meaningIn, still], hold⟩
  | optional op body =>
      obtain ⟨action, inner, rfl⟩ := (Node.means_optional _ _ _ _ _).mp means
      obtain ⟨grown, stays⟩ := meaning_stays body scope after action inner fresh
      refine ⟨grown, fun table later => ?_⟩
      obtain ⟨still, hold⟩ := stays table later
      exact ⟨by simp [Node.meaningIn, still], hold⟩
  | regex op source matched unmatched =>
      obtain ⟨pattern, accepted, between, refused, read, first, second, rfl⟩ :=
        (Node.means_regex _ _ _ _ _ _ _).mp means
      obtain ⟨early, late⟩ := fresh_append _ _ scope between fresh
        fun name => meaning_binds matched scope between accepted name first
      obtain ⟨grown, stays⟩ := meaning_stays matched scope between accepted first early
      obtain ⟨grownOn, staysOn⟩ := meaning_stays unmatched between after refused second late
      refine ⟨grows_trans _ _ _ grown grownOn, fun table later => ?_⟩
      obtain ⟨still, hold⟩ := stays table (grows_trans _ _ _ grownOn later)
      obtain ⟨stillOn, holdOn⟩ := staysOn table later
      refine ⟨by simp [Node.meaningIn, read, Except.toOption, still, stillOn], fun d member => ?_⟩
      exact (List.mem_append.mp member).elim (hold d) (holdOn d)

theorem meaning_all_stays (nodes : List Node) (scope after : Scope) (actions : List Action)
    (means : Node.meaningAll nodes scope = some (actions, after))
    (fresh : Fresh (Node.definitionsAll nodes) scope) :
    Grows scope after ∧ ∀ table, Grows after table →
      Node.meaningsIn table nodes = some actions ∧
        ∀ d ∈ Node.definitionsAll nodes, d.Holds table := by
  cases nodes with
  | nil =>
      cases means
      exact ⟨grows_refl _, fun table _ => ⟨rfl, by simp [Node.definitionsAll]⟩⟩
  | cons node rest =>
      obtain ⟨first, between, others, head, tail, rfl⟩ := (Node.means_cons _ _ _ _ _).mp means
      obtain ⟨early, late⟩ := fresh_append _ _ scope between fresh
        fun name => meaning_binds node scope between first name head
      obtain ⟨grown, stays⟩ := meaning_stays node scope between first head early
      obtain ⟨grownOn, staysOn⟩ := meaning_all_stays rest between after others tail late
      refine ⟨grows_trans _ _ _ grown grownOn, fun table later => ?_⟩
      obtain ⟨still, hold⟩ := stays table (grows_trans _ _ _ grownOn later)
      obtain ⟨stillOn, holdOn⟩ := staysOn table later
      refine ⟨by simp [Node.meaningsIn, still, stillOn], fun d member => ?_⟩
      exact (List.mem_append.mp member).elim (hold d) (holdOn d)

end

theorem meaning_in_plain (node : Node) (scope after : Scope) (action : Action)
    (means : node.meaning scope = some (action, after)) (plain : node.definitions = []) :
    node.meaningIn scope = some action := by
  have same := meaning_plain node scope after action means plain
  have stays := (meaning_stays node scope after action means (by simp [plain, Fresh])).2 after
  rw [same] at stays
  exact (stays (grows_refl _)).1

mutual

-- What a body uses is bound before its name is, so no definition leads back to itself.
theorem meaning_ranks (rank : String → Nat) (node : Node) (scope after : Scope) (action : Action)
    (means : node.meaning scope = some (action, after))
    (ordered : Ordered rank node.definitions scope) :
    ∀ d ∈ node.definitions, d.RanksAbove rank := by
  cases node with
  | literal l => simp [Node.definitions]
  | name n => simp [Node.definitions]
  | group opening statements closing =>
      obtain ⟨actions, inner, -⟩ := (Node.means_group _ _ _ _ _ _).mp means
      exact meaning_all_ranks rank statements scope after actions inner ordered
  | define op n body =>
      obtain ⟨action, between, inner, -, -⟩ := (Node.means_define _ _ _ _ _ _).mp means
      obtain ⟨early, own⟩ := ordered_append rank body.definitions [⟨n.text, body⟩] scope between
        ordered fun name => meaning_binds body scope between action name inner
      intro d member
      rcases List.mem_append.mp member with inside | last
      · exact meaning_ranks rank body scope between action inner early d inside
      · obtain rfl := List.mem_singleton.mp last
        intro use used
        exact own.1 use.text (meaning_uses body scope between action inner use used) _ (by simp)
  | choose op opening alternatives closing =>
      obtain ⟨actions, inner, -⟩ := (Node.means_choose _ _ _ _ _ _ _).mp means
      exact meaning_all_ranks rank alternatives scope after actions inner ordered
  | optional op body =>
      obtain ⟨action, inner, -⟩ := (Node.means_optional _ _ _ _ _).mp means
      exact meaning_ranks rank body scope after action inner ordered
  | regex op source matched unmatched =>
      obtain ⟨-, accepted, between, refused, -, first, second, -⟩ :=
        (Node.means_regex _ _ _ _ _ _ _).mp means
      obtain ⟨early, late⟩ := ordered_append rank _ _ scope between ordered
        fun name => meaning_binds matched scope between accepted name first
      intro d member
      exact (List.mem_append.mp member).elim
        (meaning_ranks rank matched scope between accepted first early d)
        (meaning_ranks rank unmatched between after refused second late d)

theorem meaning_all_ranks (rank : String → Nat) (nodes : List Node) (scope after : Scope)
    (actions : List Action) (means : Node.meaningAll nodes scope = some (actions, after))
    (ordered : Ordered rank (Node.definitionsAll nodes) scope) :
    ∀ d ∈ Node.definitionsAll nodes, d.RanksAbove rank := by
  cases nodes with
  | nil => simp [Node.definitionsAll]
  | cons node rest =>
      obtain ⟨first, between, others, head, tail, -⟩ := (Node.means_cons _ _ _ _ _).mp means
      obtain ⟨early, late⟩ := ordered_append rank _ _ scope between ordered
        fun name => meaning_binds node scope between first name head
      intro d member
      exact (List.mem_append.mp member).elim
        (meaning_ranks rank node scope between first head early d)
        (meaning_all_ranks rank rest between after others tail late d)

end

end TextGrammar
