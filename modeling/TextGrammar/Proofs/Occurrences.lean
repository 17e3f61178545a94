import TextGrammar.Proofs.RecursionLimit

set_option autoImplicit false

namespace TextGrammar

-- The way down to a statement of a grammar, part by part. Statements that come from elsewhere have none.
abbrev Site := Option (List Nat)

def Site.part (site : Site) (number : Nat) : Site := site.map (· ++ [number])

structure Occurrence where
  site : Site
  node : Node

def Site.parts (site : Site) (nodes : List Node) : List Occurrence :=
  nodes.mapIdx fun number node => ⟨site.part number, node⟩

abbrev Scene := Bindings Occurrence

abbrev SceneResult := Except SamplingError (String × Scene)

inductive Errand where
  | one (occurrence : Occurrence)
  | all (output : String) (rest : List Occurrence)

section

variable [Pattern.Engine]

-- The visited statements come in their order, and as often as they are visited.
inductive Visits (setting : Setting) :
    Errand → Scene → Run → SceneResult → Run → List Occurrence → Prop where
  | literal (site : Site) (l : Literal) (scene : Scene) (run : Run) :
      Visits setting (.one ⟨site, .literal l⟩) scene run (.ok (l.text, scene)) run
        [⟨site, .literal l⟩]
  | unresolved (site : Site) (n : Name) (scene : Scene) (run : Run)
      (missing : scene.get? n.text = none) :
      Visits setting (.one ⟨site, .name n⟩) scene run (.error (.unresolved n.text n.span)) run
        [⟨site, .name n⟩]
  | limited (site : Site) (n : Name) (scene : Scene) (run : Run) (body : Occurrence)
      (bound : scene.get? n.text = some body) (full : setting.limit < run.openCount n.text) :
      Visits setting (.one ⟨site, .name n⟩) scene run
        (.error (.recursionLimit n.text setting.limit n.span)) run [⟨site, .name n⟩]
  | expanded (site : Site) (n : Name) (scene : Scene) (run last : Run) (body : Occurrence)
      (result : SceneResult) (visited : List Occurrence)
      (bound : scene.get? n.text = some body) (free : run.openCount n.text ≤ setting.limit)
      (inner : Visits setting (.one body) scene (run.enter n.text) result last visited) :
      Visits setting (.one ⟨site, .name n⟩) scene run result (last.leave n.text)
        (⟨site, .name n⟩ :: visited)
  | group (site : Site) (opening closing : Span) (statements : List Node) (scene : Scene)
      (run last : Run) (result : SceneResult) (visited : List Occurrence)
      (inner : Visits setting (.all "" (site.parts statements)) scene run result last visited) :
      Visits setting (.one ⟨site, .group opening statements closing⟩) scene run result last
        (⟨site, .group opening statements closing⟩ :: visited)
  | define (site : Site) (op : Span) (n : Name) (body : Node) (scene : Scene) (run : Run) :
      Visits setting (.one ⟨site, .define op n body⟩) scene run
        (.ok ("", scene.insert n.text ⟨site.part 0, body⟩)) run [⟨site, .define op n body⟩]
  | chooseNone (site : Site) (op opening closing : Span) (scene : Scene) (run : Run) :
      Visits setting (.one ⟨site, .choose op opening [] closing⟩) scene run (.ok ("", scene)) run
        [⟨site, .choose op opening [] closing⟩]
  | choose (site : Site) (op opening closing : Span) (alternatives : List Node) (scene : Scene)
      (run last : Run) (result : SceneResult) (visited : List Occurrence)
      (index drawn : Nat) (chosen : Node) (some : alternatives ≠ [])
      (draw : setting.words.index alternatives.length run.drawn = (index, drawn))
      (found : alternatives[index]? = .some chosen)
      (inner : Visits setting (.one ⟨site.part index, chosen⟩) scene
        (run.record drawn (.choose index alternatives.length)) result last visited) :
      Visits setting (.one ⟨site, .choose op opening alternatives closing⟩) scene run result last
        (⟨site, .choose op opening alternatives closing⟩ :: visited)
  | chooseBeyond (site : Site) (op opening closing : Span) (alternatives : List Node) (scene : Scene)
      (run : Run) (index drawn : Nat) (some : alternatives ≠ [])
      (draw : setting.words.index alternatives.length run.drawn = (index, drawn))
      (beyond : alternatives[index]? = none) :
      Visits setting (.one ⟨site, .choose op opening alternatives closing⟩) scene run
        (.ok ("", scene)) (run.record drawn (.choose index alternatives.length))
        [⟨site, .choose op opening alternatives closing⟩]
  | taken (site : Site) (op : Span) (body : Node) (scene : Scene) (run last : Run)
      (result : SceneResult) (visited : List Occurrence) (drawn : Nat)
      (draw : setting.words.coin run.drawn = (true, drawn))
      (inner : Visits setting (.one ⟨site.part 0, body⟩) scene
        (run.record drawn (.optional true)) result last visited) :
      Visits setting (.one ⟨site, .optional op body⟩) scene run result last
        (⟨site, .optional op body⟩ :: visited)
  | passed (site : Site) (op : Span) (body : Node) (scene : Scene) (run : Run) (drawn : Nat)
      (draw : setting.words.coin run.drawn = (false, drawn)) :
      Visits setting (.one ⟨site, .optional op body⟩) scene run (.ok ("", scene))
        (run.record drawn (.optional false)) [⟨site, .optional op body⟩]
  | invalid (site : Site) (op : Span) (source : Literal) (matched unmatched : Node) (scene : Scene)
      (run : Run) (fault : Pattern.Fault)
      (read : Pattern.Engine.read source.text = .error fault) :
      Visits setting (.one ⟨site, .regex op source matched unmatched⟩) scene run
        (.error (.invalidPattern source.text fault source.span)) run
        [⟨site, .regex op source matched unmatched⟩]
  | matched (site : Site) (op : Span) (source : Literal) (matched unmatched : Node) (scene : Scene)
      (run last : Run) (result : SceneResult) (visited : List Occurrence)
      (pattern : Pattern) (read : Pattern.Engine.read source.text = .ok pattern)
      (accepts : Pattern.Engine.isMatch pattern setting.input = true)
      (inner : Visits setting (.one ⟨site.part 0, matched⟩) scene
        (run.record run.drawn (.regex source.text true)) result last visited) :
      Visits setting (.one ⟨site, .regex op source matched unmatched⟩) scene run result last
        (⟨site, .regex op source matched unmatched⟩ :: visited)
  | unmatched (site : Site) (op : Span) (source : Literal) (matched unmatched : Node) (scene : Scene)
      (run last : Run) (result : SceneResult) (visited : List Occurrence)
      (pattern : Pattern) (read : Pattern.Engine.read source.text = .ok pattern)
      (refuses : Pattern.Engine.isMatch pattern setting.input = false)
      (inner : Visits setting (.one ⟨site.part 1, unmatched⟩) scene
        (run.record run.drawn (.regex source.text false)) result last visited) :
      Visits setting (.one ⟨site, .regex op source matched unmatched⟩) scene run result last
        (⟨site, .regex op source matched unmatched⟩ :: visited)
  | nil (output : String) (scene : Scene) (run : Run) :
      Visits setting (.all output []) scene run (.ok (output, scene)) run []
  | failed (output : String) (occurrence : Occurrence) (rest : List Occurrence) (scene : Scene)
      (run last : Run) (error : SamplingError) (visited : List Occurrence)
      (head : Visits setting (.one occurrence) scene run (.error error) last visited) :
      Visits setting (.all output (occurrence :: rest)) scene run (.error error) last visited
  | cons (output text : String) (occurrence : Occurrence) (rest : List Occurrence)
      (scene between : Scene) (run middle last : Run) (result : SceneResult)
      (first others : List Occurrence)
      (head : Visits setting (.one occurrence) scene run (.ok (text, between)) middle first)
      (tail : Visits setting (.all (output ++ text) rest) between middle result last others) :
      Visits setting (.all output (occurrence :: rest)) scene run result last (first ++ others)

end

def Node.changeParts (change : Nat → Node → Node) : Node → Node
  | literal l => literal l
  | name n => name n
  | group opening statements closing => group opening (statements.mapIdx change) closing
  | define op n body => define op n (change 0 body)
  | choose op opening alternatives closing => choose op opening (alternatives.mapIdx change) closing
  | optional op body => optional op (change 0 body)
  | regex op source matched unmatched => regex op source (change 0 matched) (change 1 unmatched)

def Occurrence.rebuild (change : Occurrence → Node) (occurrence : Occurrence) : Node :=
  occurrence.node.changeParts fun number part => change ⟨occurrence.site.part number, part⟩

def Errand.task (change : Occurrence → Node) : Errand → Task
  | .one occurrence => .one (change occurrence)
  | .all output rest => .all output (rest.map change)

def SceneResult.change (change : Occurrence → Node) : SceneResult → Result
  | .error error => .error error
  | .ok (text, scene) => .ok (text, scene.map change)

theorem parts_map (site : Site) (nodes : List Node) (change : Occurrence → Node) :
    (site.parts nodes).map change =
      nodes.mapIdx fun number part => change ⟨site.part number, part⟩ := by
  refine List.ext_getElem? fun number => ?_
  rw [List.getElem?_map, Site.parts, List.getElem?_mapIdx, List.getElem?_mapIdx, Option.map_map]
  rfl

theorem map_index_same (nodes : List Node) : (nodes.mapIdx fun _ part => part) = nodes := by
  refine List.ext_getElem? fun number => ?_
  rw [List.getElem?_mapIdx, Option.map_id']

theorem change_parts_same (node : Node) : (node.changeParts fun _ part => part) = node := by
  cases node with
  | group | choose => simp only [Node.changeParts, map_index_same]
  | literal | name | define | optional | regex => rfl

section

variable [Pattern.Engine]

-- By induction on the account. Of a statement that is visited, and of no other, the kind is looked at.
theorem visits_evaluates (setting : Setting) (change : Occurrence → Node) (errand : Errand)
    (scene : Scene) (run last : Run) (result : SceneResult) (visited : List Occurrence)
    (visits : Visits setting errand scene run result last visited)
    (keeps : ∀ occurrence ∈ visited, change occurrence = occurrence.rebuild change) :
    Evaluates setting (errand.task change) (scene.map change) run (result.change change) last := by
  induction visits with
  | literal site l scene run =>
      rw [Errand.task, keeps _ List.mem_cons_self]
      exact .literal l _ run
  | unresolved site n scene run missing =>
      rw [Errand.task, keeps _ List.mem_cons_self]
      refine .unresolved n _ run ?_
      rw [Bindings.get?_map, missing, Option.map_none]
  | limited site n scene run body bound full =>
      rw [Errand.task, keeps _ List.mem_cons_self]
      refine .limited n _ run (change body) ?_ full
      rw [Bindings.get?_map, bound, Option.map_some]
  | expanded site n scene run last body result visited bound free _ ih =>
      obtain ⟨own, below⟩ := List.forall_mem_cons.mp keeps
      rw [Errand.task, own]
      refine .expanded n _ run last (change body) _ ?_ free (ih below)
      rw [Bindings.get?_map, bound, Option.map_some]
  | group site opening closing statements scene run last result visited _ ih =>
      obtain ⟨own, below⟩ := List.forall_mem_cons.mp keeps
      rw [Errand.task, own]
      have inner := ih below
      rw [Errand.task, parts_map] at inner
      exact .group opening closing _ _ run last _ inner
  | define site op n body scene run =>
      rw [Errand.task, keeps _ List.mem_cons_self, SceneResult.change, Bindings.map_insert]
      exact .define op n _ _ run
  | chooseNone site op opening closing scene run =>
      rw [Errand.task, keeps _ List.mem_cons_self]
      exact .chooseNone op opening closing _ run
  | choose site op opening closing alternatives scene run last result visited index drawn chosen some
      draw found _ ih =>
      obtain ⟨own, below⟩ := List.forall_mem_cons.mp keeps
      let parts := alternatives.mapIdx fun number part => change ⟨site.part number, part⟩
      have length : parts.length = alternatives.length := List.length_mapIdx
      have inner := ih below
      rw [← length] at draw inner
      rw [Errand.task, own]
      refine .choose op opening closing parts _ run last _ index drawn _ ?_ draw ?_ inner
      · rwa [Ne, List.mapIdx_eq_nil_iff]
      · rw [List.getElem?_mapIdx, found]
        rfl
  | chooseBeyond site op opening closing alternatives scene run index drawn some draw beyond =>
      let parts := alternatives.mapIdx fun number part => change ⟨site.part number, part⟩
      have length : parts.length = alternatives.length := List.length_mapIdx
      rw [Errand.task, keeps _ List.mem_cons_self]
      rw [← length] at draw ⊢
      refine .chooseBeyond op opening closing parts _ run index drawn ?_ draw ?_
      · rwa [Ne, List.mapIdx_eq_nil_iff]
      · rw [List.getElem?_mapIdx, beyond]
        rfl
  | taken site op body scene run last result visited drawn draw _ ih =>
      obtain ⟨own, below⟩ := List.forall_mem_cons.mp keeps
      rw [Errand.task, own]
      exact .taken op _ _ run last _ drawn draw (ih below)
  | passed site op body scene run drawn draw =>
      rw [Errand.task, keeps _ List.mem_cons_self]
      exact .passed op _ _ run drawn draw
  | invalid site op source matched unmatched scene run fault read =>
      rw [Errand.task, keeps _ List.mem_cons_self]
      exact .invalid op source _ _ _ run fault read
  | matched site op source matched unmatched scene run last result visited pattern read accepts _ ih =>
      obtain ⟨own, below⟩ := List.forall_mem_cons.mp keeps
      rw [Errand.task, own]
      exact .matched op source _ _ _ run last _ pattern read accepts (ih below)
  | unmatched site op source matched unmatched scene run last result visited pattern read refuses _
      ih =>
      obtain ⟨own, below⟩ := List.forall_mem_cons.mp keeps
      rw [Errand.task, own]
      exact .unmatched op source _ _ _ run last _ pattern read refuses (ih below)
  | nil output scene run => exact .nil output _ run
  | failed output occurrence rest scene run last error visited _ ih =>
      exact .failed output _ _ _ run last error (ih keeps)
  | cons output text occurrence rest scene between run middle last result first others _ _ head tail =>
      obtain ⟨before, behind⟩ := List.forall_mem_append.mp keeps
      exact .cons output text _ _ _ (between.map change) run middle last _ (head before) (tail behind)

omit [Pattern.Engine] in
theorem task_one (errand : Errand) (node : Node) (same : errand.task Occurrence.node = .one node) :
    ∃ site, errand = .one ⟨site, node⟩ := by
  cases errand with
  | one occurrence =>
      cases same
      exact ⟨occurrence.site, rfl⟩
  | all output rest => cases same

omit [Pattern.Engine] in
theorem task_all (errand : Errand) (output : String) (nodes : List Node)
    (same : errand.task Occurrence.node = .all output nodes) :
    ∃ rest, errand = .all output rest ∧ rest.map Occurrence.node = nodes := by
  cases errand with
  | one occurrence => cases same
  | all output' rest =>
      cases same
      exact ⟨rest, rfl, rfl⟩

-- By induction on the evaluation. The account is kept for any places of the statements evaluated.
theorem evaluates_visits (setting : Setting) (task : Task) (environment : Environment)
    (run last : Run) (result : Result)
    (evaluates : Evaluates setting task environment run result last) (errand : Errand) (scene : Scene)
    (same : errand.task Occurrence.node = task) (holds : scene.map Occurrence.node = environment) :
    ∃ arrived visited, Visits setting errand scene run arrived last visited ∧
      arrived.change Occurrence.node = result := by
  induction evaluates generalizing errand scene with
  | literal l environment run =>
      obtain ⟨site, rfl⟩ := task_one _ _ same
      subst holds
      exact ⟨_, _, .literal site l scene run, rfl⟩
  | unresolved n environment run missing =>
      obtain ⟨site, rfl⟩ := task_one _ _ same
      subst holds
      rw [Bindings.get?_map, Option.map_eq_none_iff] at missing
      exact ⟨_, _, .unresolved site n scene run missing, rfl⟩
  | limited n environment run body bound full =>
      obtain ⟨site, rfl⟩ := task_one _ _ same
      subst holds
      rw [Bindings.get?_map, Option.map_eq_some_iff] at bound
      obtain ⟨occurrence, bound, rfl⟩ := bound
      exact ⟨_, _, .limited site n scene run occurrence bound full, rfl⟩
  | expanded n environment run last body result bound free _ ih =>
      obtain ⟨site, rfl⟩ := task_one _ _ same
      subst holds
      rw [Bindings.get?_map, Option.map_eq_some_iff] at bound
      obtain ⟨occurrence, bound, rfl⟩ := bound
      obtain ⟨arrived, visited, inner, rfl⟩ := ih (.one occurrence) scene rfl rfl
      exact ⟨_, _, .expanded site n scene run last occurrence arrived visited bound free inner, rfl⟩
  | group opening closing statements environment run last result _ ih =>
      obtain ⟨site, rfl⟩ := task_one _ _ same
      have parts : (Errand.all "" (site.parts statements)).task Occurrence.node =
          .all "" statements := by rw [Errand.task, parts_map, map_index_same]
      obtain ⟨arrived, visited, inner, rfl⟩ := ih _ scene parts holds
      exact ⟨_, _, .group site opening closing statements scene run last arrived visited inner, rfl⟩
  | define op n body environment run =>
      obtain ⟨site, rfl⟩ := task_one _ _ same
      subst holds
      refine ⟨_, _, .define site op n body scene run, ?_⟩
      rw [SceneResult.change, Bindings.map_insert]
  | chooseNone op opening closing environment run =>
      obtain ⟨site, rfl⟩ := task_one _ _ same
      subst holds
      exact ⟨_, _, .chooseNone site op opening closing scene run, rfl⟩
  | choose op opening closing alternatives environment run last result index drawn chosen some draw
      found _ ih =>
      obtain ⟨site, rfl⟩ := task_one _ _ same
      obtain ⟨arrived, visited, inner, rfl⟩ := ih (.one ⟨site.part index, chosen⟩) scene rfl holds
      exact ⟨_, _, .choose site op opening closing alternatives scene run last arrived visited index
        drawn chosen some draw found inner, rfl⟩
  | chooseBeyond op opening closing alternatives environment run index drawn some draw beyond =>
      obtain ⟨site, rfl⟩ := task_one _ _ same
      subst holds
      exact ⟨_, _, .chooseBeyond site op opening closing alternatives scene run index drawn some draw
        beyond, rfl⟩
  | taken op body environment run last result drawn draw _ ih =>
      obtain ⟨site, rfl⟩ := task_one _ _ same
      obtain ⟨arrived, visited, inner, rfl⟩ := ih (.one ⟨site.part 0, body⟩) scene rfl holds
      exact ⟨_, _, .taken site op body scene run last arrived visited drawn draw inner, rfl⟩
  | passed op body environment run drawn draw =>
      obtain ⟨site, rfl⟩ := task_one _ _ same
      subst holds
      exact ⟨_, _, .passed site op body scene run drawn draw, rfl⟩
  | invalid op source matched unmatched environment run fault read =>
      obtain ⟨site, rfl⟩ := task_one _ _ same
      exact ⟨_, _, .invalid site op source matched unmatched scene run fault read, rfl⟩
  | matched op source matched unmatched environment run last result pattern read accepts _ ih =>
      obtain ⟨site, rfl⟩ := task_one _ _ same
      obtain ⟨arrived, visited, inner, rfl⟩ := ih (.one ⟨site.part 0, matched⟩) scene rfl holds
      exact ⟨_, _, .matched site op source matched unmatched scene run last arrived visited pattern
        read accepts inner, rfl⟩
  | unmatched op source matched unmatched environment run last result pattern read refuses _ ih =>
      obtain ⟨site, rfl⟩ := task_one _ _ same
      obtain ⟨arrived, visited, inner, rfl⟩ := ih (.one ⟨site.part 1, unmatched⟩) scene rfl holds
      exact ⟨_, _, .unmatched site op source matched unmatched scene run last arrived visited pattern
        read refuses inner, rfl⟩
  | nil output environment run =>
      obtain ⟨rest, rfl, empty⟩ := task_all _ _ _ same
      obtain rfl := List.map_eq_nil_iff.mp empty
      subst holds
      exact ⟨_, _, .nil output scene run, rfl⟩
  | failed output node rest environment run last error _ ih =>
      obtain ⟨listed, rfl, all⟩ := task_all _ _ _ same
      obtain ⟨occurrence, others, rfl, rfl, rfl⟩ := List.map_eq_cons_iff.mp all
      obtain ⟨arrived, visited, head, failed⟩ := ih (.one occurrence) scene rfl holds
      cases arrived with
      | error error' =>
          cases failed
          exact ⟨_, _, .failed output occurrence others scene run last error visited head, rfl⟩
      | ok production => cases failed
  | cons output text node rest environment between run middle last result _ _ headVisits tailVisits =>
      obtain ⟨listed, rfl, all⟩ := task_all _ _ _ same
      obtain ⟨occurrence, others, rfl, rfl, rfl⟩ := List.map_eq_cons_iff.mp all
      obtain ⟨arrived, first, head, reached⟩ := headVisits (.one occurrence) scene rfl holds
      cases arrived with
      | error error => cases reached
      | ok production =>
          cases reached
          obtain ⟨arrived, second, tail, rfl⟩ :=
            tailVisits (.all (output ++ production.1) others) production.2 rfl rfl
          exact ⟨_, _, .cons output production.1 occurrence others scene production.2 run middle last
            arrived first second head tail, rfl⟩

end

def Grammar.occurrences (grammar : Grammar) : List Occurrence :=
  Site.parts (some []) grammar.statements

theorem own_statements (grammar : Grammar) :
    grammar.occurrences.map Occurrence.node = grammar.statements := by
  rw [Grammar.occurrences, parts_map, map_index_same]

def Environment.outside (environment : Environment) : Scene := environment.map fun node => ⟨none, node⟩

theorem outside_node (environment : Environment) :
    environment.outside.map Occurrence.node = environment :=
  Bindings.map_back _ _ environment fun _ => rfl

section

variable [Pattern.Engine]

abbrev Grammar.Visits (grammar : Grammar) (setting : Setting) (scene : Scene) (drawn : Nat)
    (result : SceneResult) (last : Run) (visited : List Occurrence) : Prop :=
  TextGrammar.Visits setting (.all "" grammar.occurrences) scene (Run.start drawn) result last visited

theorem sample_visits (grammar : Grammar) (setting : Setting) (scene : Scene) (drawn : Nat) :
    ∃ result last visited, grammar.Visits setting scene drawn result last visited := by
  obtain ⟨result, last, evaluates, -⟩ :=
    sample_outcome grammar setting (scene.map Occurrence.node) drawn
  have root : (Errand.all "" grammar.occurrences).task Occurrence.node = .all "" grammar.statements :=
    congrArg (Task.all "") (own_statements grammar)
  obtain ⟨arrived, visited, visits, -⟩ := evaluates_visits setting _ _ _ last result evaluates _ scene
    root rfl
  exact ⟨arrived, last, visited, visits⟩

theorem visits_sample (grammar changed : Grammar) (setting : Setting) (scene : Scene) (drawn : Nat)
    (result : SceneResult) (last : Run) (visited : List Occurrence)
    (visits : grammar.Visits setting scene drawn result last visited) (change : Occurrence → Node)
    (keeps : ∀ occurrence ∈ visited, change occurrence = occurrence.rebuild change)
    (root : grammar.occurrences.map change = changed.statements) :
    changed.sample setting (scene.map change) drawn = last.outcome (result.change change) := by
  have evaluates := visits_evaluates setting change _ scene _ last result visited visits keeps
  rw [Errand.task, root] at evaluates
  exact evaluates_sample changed setting _ drawn _ last evaluates

theorem visits_own_sample (grammar : Grammar) (setting : Setting) (scene : Scene) (drawn : Nat)
    (result : SceneResult) (last : Run) (visited : List Occurrence)
    (visits : grammar.Visits setting scene drawn result last visited) :
    grammar.sample setting (scene.map Occurrence.node) drawn =
      last.outcome (result.change Occurrence.node) :=
  visits_sample grammar grammar setting scene drawn result last visited visits Occurrence.node
    (fun occurrence _ => (change_parts_same occurrence.node).symm) (own_statements grammar)

theorem visits_outside_sample (grammar : Grammar) (setting : Setting) (environment : Environment)
    (drawn : Nat) (result : SceneResult) (last : Run) (visited : List Occurrence)
    (visits : grammar.Visits setting environment.outside drawn result last visited) :
    grammar.sample setting environment drawn = last.outcome (result.change Occurrence.node) := by
  have own := visits_own_sample grammar setting _ drawn result last visited visits
  rwa [outside_node] at own

end

end TextGrammar
