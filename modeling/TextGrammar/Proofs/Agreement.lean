import TextGrammar.Proofs.Realisation
import TextGrammar.Proofs.Room
import TextGrammar.Proofs.Stability

set_option autoImplicit false

namespace TextGrammar

def Setting.feed (setting : Setting) : Feed := ⟨setting.words, setting.input⟩

def Task.definitions : Task → List Definition
  | .one node => node.definitions
  | .all _ nodes => Node.definitionsAll nodes

theorem chosen_definitions (nodes : List Node) (index : Nat) (chosen : Node)
    (found : nodes[index]? = some chosen) :
    ∀ d ∈ chosen.definitions, d ∈ Node.definitionsAll nodes := by
  induction nodes generalizing index with
  | nil => simp at found
  | cons node rest ih =>
      intro d member
      cases index with
      | zero =>
          obtain rfl : node = chosen := by simpa using found
          exact List.mem_append_left _ member
      | succ index => exact List.mem_append_right _ (ih index (by simpa using found) d member)

section

variable [Pattern.Engine]

theorem meanings_in_length (table : Scope) (nodes : List Node) (actions : List Action)
    (means : Node.meaningsIn table nodes = some actions) : actions.length = nodes.length := by
  induction nodes generalizing actions with
  | nil => cases means; rfl
  | cons node rest ih =>
      obtain ⟨first, others, -, tail, rfl⟩ := (Node.means_in_cons _ _ _ _).mp means
      simp [ih others tail]

theorem meanings_in_chosen (table : Scope) (nodes : List Node) (actions : List Action)
    (means : Node.meaningsIn table nodes = some actions) (index : Nat) (chosen : Node)
    (found : nodes[index]? = some chosen) :
    ∃ action, actions[index]? = some action ∧ chosen.meaningIn table = some action := by
  induction nodes generalizing actions index with
  | nil => simp at found
  | cons node rest ih =>
      obtain ⟨first, others, head, tail, rfl⟩ := (Node.means_in_cons _ _ _ _).mp means
      cases index with
      | zero =>
          obtain rfl : node = chosen := by simpa using found
          exact ⟨first, rfl, head⟩
      | succ index => simpa using ih others tail index (by simpa using found)

theorem meanings_in_run_choose (table : Scope) (alternatives : List Node) (actions : List Action)
    (means : Node.meaningsIn table alternatives = some actions) (feed : Feed)
    (start index drawn : Nat) (some : alternatives ≠ [])
    (draw : feed.words.index alternatives.length start = (index, drawn)) :
    (Action.choose actions).run feed start =
      (actions[index]?.getD (Action.constant "")).run feed drawn := by
  have lengths := meanings_in_length table alternatives actions means
  have nonempty : actions ≠ [] := by
    rintro rfl
    exact some (List.length_eq_zero_iff.mp lengths.symm)
  have ran := Action.run_choose actions feed start index drawn nonempty (by rw [lengths]; exact draw)
  rwa [List.getD_eq_getElem?_getD] at ran

def Task.meaningIn (table : Scope) : Task → Option Action
  | .one node => node.meaningIn table
  | .all output nodes =>
      (Node.meaningsIn table nodes).map fun actions => (Action.sequence actions).behind output

def Definition.Explained (definition : Definition) (table : Scope) (rank : String → Nat) : Prop :=
  definition.Holds table ∧ definition.RanksAbove rank

def Environment.Explained (environment : Environment) (table : Scope) (rank : String → Nat) : Prop :=
  ∀ (name : String) (body : Node), environment.get? name = some body →
    Definition.Explained ⟨name, body⟩ table rank ∧
      ∀ d ∈ body.definitions, d.Explained table rank

theorem explained_insert (environment : Environment) (table : Scope) (rank : String → Nat)
    (op : Span) (name : Name) (body : Node) (explained : environment.Explained table rank)
    (defined : ∀ d ∈ (Node.define op name body).definitions, d.Explained table rank) :
    Environment.Explained (environment.insert name.text body) table rank := by
  intro other found bound
  rw [Bindings.get?_insert] at bound
  by_cases same : name.text = other
  · rw [if_pos same] at bound
    cases bound
    subst same
    exact ⟨defined _ (by simp [Node.definitions]), fun d member =>
      defined d (by simp [Node.definitions, member])⟩
  · rw [if_neg same] at bound
    exact explained other found bound

-- An evaluation ends with the text the action tells, or at a name the environment does not have.
def Agrees (setting : Setting) (table : Scope) (rank : String → Nat) (action : Action)
    (environment : Environment) (run : Run) (result : Result) (last : Run) : Prop :=
  match result with
  | .ok (text, after) =>
      action.run setting.feed run.drawn = (text, last.drawn) ∧
        Environment.Explained after table rank ∧
          ∀ name, (environment.get? name).isSome → (after.get? name).isSome
  | .error error =>
      ∃ name place, error = .unresolved name place ∧ environment.get? name = none ∧
        Binds table name

-- What is drawn or tested before a part runs is not part of its agreement.
theorem agrees_before (setting : Setting) (table : Scope) (rank : String → Nat)
    (whole part : Action) (environment : Environment) (start run : Run) (result : Result) (last : Run)
    (ran : whole.run setting.feed start.drawn = part.run setting.feed run.drawn)
    (agrees : Agrees setting table rank part environment run result last) :
    Agrees setting table rank whole environment start result last := by
  cases result with
  | ok production => exact ⟨ran.trans agrees.1, agrees.2⟩
  | error error => exact agrees

-- The bound separates the names that may still be expanded, all of them closed, from the open ones.
theorem evaluates_agrees (setting : Setting) (table : Scope) (rank : String → Nat) (task : Task)
    (environment : Environment) (run last : Run) (result : Result)
    (evaluates : Evaluates setting task environment run result last) (action : Action)
    (means : task.meaningIn table = some action)
    (defined : ∀ d ∈ task.definitions, d.Explained table rank)
    (explained : environment.Explained table rank) (bound : Nat)
    (below : ∀ use ∈ task.uses, rank use.text < bound)
    (free : ∀ name, rank name < bound → run.openCount name = 0) :
    Agrees setting table rank action environment run result last := by
  induction evaluates generalizing action bound with
  | literal l environment run =>
      cases means
      exact ⟨rfl, explained, fun _ found => found⟩
  | unresolved n environment run missing =>
      have found : table.get? n.text = some action := means
      exact ⟨n.text, n.span, rfl, missing, by simp [Binds, found]⟩
  | limited n environment run body _ full =>
      have closed := free n.text (below n (by simp [Task.uses, Node.uses]))
      omega
  | expanded n environment run inside body result found _ _ ih =>
      obtain ⟨⟨⟨other, meant, bodyMeans⟩, ranks⟩, inner⟩ := explained n.text body found
      obtain rfl : action = other := Option.some.inj (means.symm.trans meant)
      refine ih action bodyMeans inner explained (rank n.text) ranks fun name lower => ?_
      have different : n.text ≠ name := by
        rintro rfl
        omega
      have nameBelow := below n (by simp [Task.uses, Node.uses])
      rw [open_count_enter, if_neg different]
      exact free name (by omega)
  | group _ _ statements environment run last result _ ih =>
      obtain ⟨actions, inner, rfl⟩ := Option.map_eq_some_iff.mp means
      have agrees := ih (Action.behind "" (Action.sequence actions))
        (by simp [Task.meaningIn, inner]) defined explained bound below free
      rwa [Action.behind_empty] at agrees
  | define op n body environment run =>
      cases means
      refine ⟨rfl, explained_insert environment table rank op n body explained defined, ?_⟩
      intro name found
      rw [Bindings.get?_insert]
      split
      · rfl
      · exact found
  | chooseNone =>
      cases means
      exact ⟨rfl, explained, fun _ found => found⟩
  | choose _ _ _ alternatives environment run last result index drawn chosen some draw found _ ih =>
      obtain ⟨actions, inner, rfl⟩ := Option.map_eq_some_iff.mp means
      obtain ⟨one, oneFound, oneMeans⟩ := meanings_in_chosen table alternatives actions inner index
        chosen found
      have agrees := ih one oneMeans
        (fun d member => defined d (chosen_definitions _ index chosen found d member)) explained bound
        (fun use member => below use (chosen_uses _ index chosen found use member)) free
      have ran := meanings_in_run_choose table alternatives actions inner setting.feed _ index drawn
        some draw
      rw [oneFound, Option.getD_some] at ran
      exact agrees_before _ _ _ _ _ _ _ _ _ _ (by exact ran) agrees
  | chooseBeyond _ _ _ alternatives environment run index drawn some draw beyond =>
      obtain ⟨actions, inner, rfl⟩ := Option.map_eq_some_iff.mp means
      have lengths := meanings_in_length table alternatives actions inner
      have ran := meanings_in_run_choose table alternatives actions inner setting.feed _ index drawn
        some draw
      have outside : actions[index]? = none := by
        rw [List.getElem?_eq_none_iff] at beyond ⊢
        omega
      rw [outside, Option.getD_none, Action.run_constant] at ran
      exact ⟨ran, explained, fun _ kept => kept⟩
  | taken _ body environment run last result drawn draw _ ih =>
      obtain ⟨inner, meant, rfl⟩ := Option.map_eq_some_iff.mp means
      have agrees := ih inner meant defined explained bound below free
      have ran := Action.run_optional inner setting.feed run.drawn drawn true draw
      exact agrees_before _ _ _ _ _ _ _ _ _ _ (by exact ran) agrees
  | passed _ body environment run drawn draw =>
      obtain ⟨inner, -, rfl⟩ := Option.map_eq_some_iff.mp means
      exact ⟨Action.run_optional inner setting.feed run.drawn drawn false draw, explained,
        fun _ kept => kept⟩
  | invalid op source _ _ _ _ fault read =>
      obtain ⟨pattern, _, _, valid, -⟩ := (Node.means_in_regex _ op _ _ _ _).mp means
      rw [read] at valid
      cases valid
  | matched op source _ _ environment run last result pattern read accepts _ ih =>
      obtain ⟨other, accepted, refused, valid, first, -, rfl⟩ :=
        (Node.means_in_regex _ op _ _ _ _).mp means
      obtain rfl : pattern = other := Except.ok.inj (read.symm.trans valid)
      have agrees := ih accepted first (fun d member => defined d (List.mem_append_left _ member))
        explained bound (fun use member => below use (List.mem_append_left _ member)) free
      have ran := Action.run_test pattern accepted refused setting.feed run.drawn true accepts
      exact agrees_before _ _ _ _ _ _ _ _ _ _ (by exact ran) agrees
  | unmatched op source _ _ environment run last result pattern read refuses _ ih =>
      obtain ⟨other, accepted, refused, valid, -, second, rfl⟩ :=
        (Node.means_in_regex _ op _ _ _ _).mp means
      obtain rfl : pattern = other := Except.ok.inj (read.symm.trans valid)
      have agrees := ih refused second (fun d member => defined d (List.mem_append_right _ member))
        explained bound (fun use member => below use (List.mem_append_right _ member)) free
      have ran := Action.run_test pattern accepted refused setting.feed run.drawn false refuses
      exact agrees_before _ _ _ _ _ _ _ _ _ _ (by exact ran) agrees
  | nil output environment run =>
      cases means
      refine ⟨?_, explained, fun _ kept => kept⟩
      rw [Action.run_behind, Action.sequence, Action.run_constant, String.append_empty]
  | failed output node rest environment run last error _ ih =>
      obtain ⟨actions, inner, rfl⟩ := Option.map_eq_some_iff.mp means
      obtain ⟨first, others, head, -, rfl⟩ := (Node.means_in_cons _ _ _ _).mp inner
      exact ih first head (fun d member => defined d (List.mem_append_left _ member)) explained bound
        (fun use member => below use (List.mem_append_left _ member)) free
  | cons output text node rest environment between run middle last result head _ headAgrees tailAgrees =>
      obtain ⟨actions, inner, rfl⟩ := Option.map_eq_some_iff.mp means
      obtain ⟨first, others, firstMeans, othersMean, rfl⟩ := (Node.means_in_cons _ _ _ _).mp inner
      obtain ⟨firstRan, still, kept⟩ := headAgrees first firstMeans
        (fun d member => defined d (List.mem_append_left _ member)) explained bound
        (fun use member => below use (List.mem_append_left _ member)) free
      have agrees := tailAgrees (Action.behind (output ++ text) (Action.sequence others))
        (by simp [Task.meaningIn, othersMean])
        (fun d member => defined d (List.mem_append_right _ member)) still bound
        (fun use member => below use (List.mem_append_right _ member))
        fun name lower => (evaluates_restores _ _ _ _ _ _ head name).trans (free name lower)
      cases result with
      | ok production =>
          obtain ⟨ran, after, keptOn⟩ := agrees
          refine ⟨?_, after, fun name found => keptOn name (kept name found)⟩
          rw [Action.run_behind, Action.run_sequence, firstRan, ← String.append_assoc]
          rwa [Action.run_behind] at ran
      | error error =>
          obtain ⟨name, place, rfl, missing, binds⟩ := agrees
          refine ⟨name, place, rfl, ?_, binds⟩
          by_contra found
          have later := kept name (Option.isSome_iff_ne_none.mpr found)
          simp [missing] at later

end

end TextGrammar
