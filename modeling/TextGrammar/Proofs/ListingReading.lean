import TextGrammar.Generator.Listing
import TextGrammar.Proofs.Emission
import TextGrammar.Proofs.Folding

set_option autoImplicit false

namespace TextGrammar

open Rust

theorem split_terminated {α : Type} [BEq α] [LawfulBEq α] (mark : α) (parts : List (List α))
    (last : List α) (inside : ∀ part ∈ parts, mark ∉ part) (behind : mark ∉ last) :
    (parts.flatMap (· ++ [mark]) ++ last).splitOn mark = parts ++ [last] := by
  have whole : ∀ part : List α, mark ∉ part → part.splitOn mark = [part] := by
    intro part apart
    refine List.splitOnP_eq_singleton fun c member => ?_
    rw [beq_eq_false_iff_ne]
    exact ne_of_mem_of_not_mem member apart
  induction parts with
  | nil => exact whole last behind
  | cons part rest ih =>
      obtain ⟨first, others⟩ := List.forall_mem_cons.mp inside
      have split := List.splitOnP_append_cons part (rest.flatMap (· ++ [mark]) ++ last)
        (p := (· == mark)) (beq_self_eq_true mark)
      change _ = part.splitOn mark ++ List.splitOn mark _ at split
      rw [List.flatMap_cons, List.append_assoc, List.append_assoc, List.singleton_append]
      rw [List.splitOn, split, whole part first, ih others]
      rfl

theorem read_each {α β γ : Type} (read : β → Option γ) (write : α → β) (result : α → γ)
    (entries : List α) (back : ∀ entry ∈ entries, read (write entry) = some (result entry)) :
    (entries.map write).mapM read = some (entries.map result) := by
  induction entries with
  | nil => rfl
  | cons entry rest ih =>
      obtain ⟨first, others⟩ := List.forall_mem_cons.mp back
      rw [List.map_cons, List.mapM_cons, first, ih others]
      rfl

namespace Kind

def operation : Kind → String
  | .concat => "concat"
  | .choose => "choose"
  | .optional => "optional"
  | .regex => "regex"
  | .forward => "alias"

def ofOperation? (word : String) : Option Kind :=
  [concat, choose, optional, regex, forward].find? (·.operation == word)

theorem lexes_operation (kind : Kind) :
    Lexes (" = " ++ kind.operation ++ "(") [.mark "=", .word kind.operation, .mark "("] := by
  cases kind <;> decide

theorem of_operation (kind : Kind) : ofOperation? kind.operation = some kind := by
  cases kind <;> decide

end Kind

namespace Procedure

def patternText : Procedure → Option String
  | .regex pattern _ _ => some pattern.text
  | .concat _ | .choose _ | .optional _ | .forward _ => none

def fragments : Procedure → List Fragment
  | .concat parts => parts
  | .choose alternatives => alternatives
  | .optional body => [body]
  | .regex _ matched unmatched => [matched, unmatched]
  | .forward target => [.reference target]

def operands (procedure : Procedure) : List Fragment :=
  (procedure.patternText.map Fragment.constant).toList ++ procedure.fragments

theorem kind_operation (procedure : Procedure) : procedure.kind.operation = procedure.operation := by
  cases procedure <;> rfl

theorem operands_tell (procedure other : Procedure) (kind : procedure.kind = other.kind)
    (operands : procedure.operands = other.operands) :
    procedure.patternText = other.patternText ∧ procedure.fragments = other.fragments := by
  cases procedure <;> cases other <;> cases kind <;>
    simpa [Procedure.operands, patternText, fragments] using operands

end Procedure

theorem list_operands (generator : Generator) (layout : Layout) (procedure : Procedure) :
    generator.listOperands layout procedure = generator.listFragments layout procedure.operands := by
  cases procedure with
  | concat parts | choose alternatives => rfl
  | optional body | forward target => exact String.intercalate_singleton.symm
  | regex pattern matched unmatched =>
      rw [Generator.listFragments]
      simp [Procedure.operands, Procedure.patternText, Procedure.fragments, Generator.listOperands,
        Generator.listFragment, String.intercalate_cons_cons, String.append_assoc]

structure Listed where
  name : String
  kind : Kind
  operands : List Fragment
deriving DecidableEq

structure Contents where
  procedures : List Listed
  entry : Fragment
deriving DecidableEq

def NamedProcedure.listed (named : NamedProcedure) : Listed :=
  ⟨named.name, named.procedure.kind, named.procedure.operands⟩

def Generator.contents (generator : Generator) : Contents :=
  ⟨generator.procedures.toList.map NamedProcedure.listed, generator.entry⟩

-- Calls are told from the names of all procedures.
def readFragment (names : List String) : List Rust.Token → Option Fragment
  | [.quoted text] => some (.constant text)
  | [.word name] => (names.idxOf? name).map Fragment.reference
  | _ => none

def operandParts (tokens : List Rust.Token) : List (List Rust.Token) :=
  if tokens = [] then [] else tokens.splitOn (.mark ",")

def readLine (names : List String) : List Rust.Token → Option Listed
  | .word name :: .mark "=" :: .word operation :: .mark "(" :: operands => do
      let kind ← Kind.ofOperation? operation
      let operands ← (operandParts operands).mapM (readFragment names)
      return ⟨name, kind, operands⟩
  | _ => none

def readEntry (names : List String) : List Rust.Token → Option Fragment
  | .word "entry" :: .mark "=" :: entry => readFragment names entry
  | _ => none

def lineName : List Rust.Token → Option String
  | .word name :: _ => some name
  | _ => none

def Contents.read (text : String) : Option Contents := do
  let (.between, tokens) ← lex .between text.toList | none
  let lines := tokens.splitOn (.mark ")")
  let names := lines.dropLast.filterMap lineName
  let procedures ← lines.dropLast.mapM (readLine names)
  let entry ← readEntry names (lines.getLastD [])
  return ⟨procedures, entry⟩

section

variable (generator : Generator)

def fragmentToken : Fragment → Rust.Token
  | .constant text => .quoted text
  | .reference index => .word (generator.nameOf index)

def operandTokens (operands : List Fragment) : List Rust.Token :=
  [.mark ","].intercalate (operands.map fun operand => [fragmentToken generator operand])

def lineTokens (named : NamedProcedure) : List Rust.Token :=
  .word named.name :: .mark "=" :: .word named.procedure.kind.operation :: .mark "(" ::
    operandTokens generator named.procedure.operands

def entryTokens : List Rust.Token :=
  [.word "entry", .mark "=", fragmentToken generator generator.entry]

def listingTokens : List Rust.Token :=
  (generator.procedures.toList.map (lineTokens generator)).flatMap (· ++ [.mark ")"]) ++
    entryTokens generator

def Callable (fragment : Fragment) : Prop :=
  ∀ index, fragment = .reference index → IsName (generator.nameOf index)

theorem lexes_fragment (fragment : Fragment) (callable : Callable generator fragment) (second : String)
    (others : List Rust.Token) (c : Char) (next : second.toList.head? = some c)
    (ends : c ∈ [',', ')', '\n']) (tail : Lexes second others) :
    Lexes (generator.listFragment Layout.plain fragment ++ second)
      (fragmentToken generator fragment :: others) := by
  cases fragment with
  | constant text => exact (lexes_quote text).append tail
  | reference index =>
      have isName := callable index rfl
      have closes : ∀ part, step (.word part) c = close (.word (String.ofList part)) c := by
        obtain rfl | rfl | rfl : c = ',' ∨ c = ')' ∨ c = '\n' := by simpa using ends
        all_goals exact fun _ => rfl
      have read := lexes_behind _ second _ [] others _ c (lex_name _ isName) next (closes _) tail
      rwa [String.ofList_toList] at read

theorem lexes_operands (operands : List Fragment)
    (callable : ∀ operand ∈ operands, Callable generator operand) (second : String)
    (others : List Rust.Token) (next : second.toList.head? = some ')') (tail : Lexes second others) :
    Lexes (generator.listFragments Layout.plain operands ++ second)
      (operandTokens generator operands ++ others) := by
  unfold Generator.listFragments
  induction operands with
  | nil => simpa [operandTokens] using tail
  | cons operand rest ih =>
      obtain ⟨first, more⟩ := List.forall_mem_cons.mp callable
      cases rest with
      | nil =>
          have read := lexes_fragment generator operand first second others ')' next (by decide) tail
          simpa [operandTokens] using read
      | cons operand' rest =>
          have comma : Lexes ", " [.mark ","] := by decide
          have behind := comma.append (ih more)
          have read := lexes_fragment generator operand first _ _ ',' (by simp) (by decide) behind
          simpa [operandTokens, String.intercalate_cons_cons, List.intercalate_cons_cons,
            String.append_assoc] using read

def lineText (named : NamedProcedure) : String :=
  named.name ++ " = " ++ named.procedure.operation ++ "(" ++
    generator.listFragments Layout.plain named.procedure.operands ++ ")"

def entryText : String := "entry = " ++ generator.listFragment Layout.plain generator.entry

theorem procedure_plain_line (index : Nat) (named : NamedProcedure) :
    generator.listProcedure Layout.plain index named = lineText generator named ++ "\n" := by
  have ended : ")\n" = ")" ++ "\n" := by decide
  simp only [Generator.listProcedure, Layout.plain, list_operands, lineText, ended, String.append_assoc]
  rfl

theorem entry_plain_line : generator.listEntry Layout.plain = entryText generator ++ "\n" := rfl

theorem listing_lines : generator.listing =
    String.join (generator.procedures.toList.map fun named => lineText generator named ++ "\n") ++
      (entryText generator ++ "\n") := by
  have lines : generator.procedures.toList.mapIdx (generator.listProcedure Layout.plain) =
      generator.procedures.toList.map fun named => lineText generator named ++ "\n" := by
    refine List.ext_getElem? fun index => ?_
    rw [List.getElem?_mapIdx, List.getElem?_map, funext (procedure_plain_line generator index)]
  rw [Generator.listing, Generator.list, lines, entry_plain_line]

theorem lexes_line (named : NamedProcedure) (isName : IsName named.name)
    (callable : ∀ operand ∈ named.procedure.operands, Callable generator operand) :
    Lexes (lineText generator named ++ "\n") (lineTokens generator named ++ [.mark ")"]) := by
  have closing : Lexes ")\n" [.mark ")"] := by decide
  have operands := lexes_operands generator named.procedure.operands callable ")\n" _ rfl closing
  have behind := (Kind.lexes_operation named.procedure.kind).append operands
  have next : (" = " ++ named.procedure.kind.operation ++ "(" ++
      (generator.listFragments Layout.plain named.procedure.operands ++ ")\n")).toList.head? =
        some ' ' := by
    simp
  have read := lexes_behind named.name _ _ [] _ (.word (String.ofList named.name.toList)) ' '
    (lex_name _ isName) next rfl behind
  rw [String.ofList_toList] at read
  have spelled : lineText generator named ++ "\n" = named.name ++
      (" = " ++ named.procedure.kind.operation ++ "(" ++
        (generator.listFragments Layout.plain named.procedure.operands ++ ")\n")) := by
    have ended : ")\n" = ")" ++ "\n" := by decide
    simp only [lineText, ended, Procedure.kind_operation, String.append_assoc]
  rw [spelled]
  simpa [lineTokens] using read

theorem lexes_listing
    (lines : ∀ named ∈ generator.procedures.toList, IsName named.name ∧
      ∀ operand ∈ named.procedure.operands, Callable generator operand)
    (entry : Callable generator generator.entry) :
    Lexes generator.listing (listingTokens generator) := by
  have rows : ∀ table : List NamedProcedure,
      (∀ named ∈ table, IsName named.name ∧
        ∀ operand ∈ named.procedure.operands, Callable generator operand) →
      Lexes (String.join (table.map fun named => lineText generator named ++ "\n"))
        ((table.map (lineTokens generator)).flatMap (· ++ [.mark ")"])) := by
    intro table
    induction table with
    | nil => intro _; rfl
    | cons named rest ih =>
        intro lines
        obtain ⟨⟨isName, callable⟩, others⟩ := List.forall_mem_cons.mp lines
        rw [List.map_cons, String.join_cons, List.map_cons, List.flatMap_cons]
        exact (lexes_line generator named isName callable).append (ih others)
  have word : Lexes "entry = " [.word "entry", .mark "="] := by decide
  have ended : Lexes "\n" [] := by decide
  have last := word.append (lexes_fragment generator generator.entry entry "\n" [] '\n' rfl (by decide) ended)
  have whole := (rows generator.procedures.toList lines).append last
  rw [listing_lines, listingTokens]
  exact whole

theorem operands_commas (operands : List Fragment) :
    operandParts (operandTokens generator operands) =
      operands.map fun operand => [fragmentToken generator operand] := by
  cases operands with
  | nil => rfl
  | cons operand rest =>
      have some : operandTokens generator (operand :: rest) ≠ [] := by
        cases rest <;> simp [operandTokens, List.intercalate_cons_cons]
      rw [operandParts, if_neg some, operandTokens]
      refine List.splitOn_intercalate _ ?_ (by simp)
      intro part member comma
      obtain ⟨fragment, -, rfl⟩ := List.mem_map.mp member
      cases fragment <;> simp [fragmentToken] at comma

theorem operand_token (operands : List Fragment) (token : Rust.Token)
    (member : token ∈ operandTokens generator operands) :
    token = .mark "," ∨ ∃ fragment, token = fragmentToken generator fragment := by
  induction operands with
  | nil => cases member
  | cons operand rest ih =>
      cases rest with
      | nil => exact .inr ⟨operand, List.mem_singleton.mp member⟩
      | cons operand' rest =>
          obtain rfl | rfl | later : token = fragmentToken generator operand ∨ token = .mark "," ∨
              token ∈ operandTokens generator (operand' :: rest) := by
            simpa [operandTokens, List.intercalate_cons_cons] using member
          · exact .inr ⟨operand, rfl⟩
          · exact .inl rfl
          · exact ih later

theorem line_unclosed (named : NamedProcedure) : .mark ")" ∉ lineTokens generator named := by
  intro closes
  have inside : .mark ")" ∈ operandTokens generator named.procedure.operands := by
    simpa [lineTokens] using closes
  obtain comma | ⟨fragment, same⟩ := operand_token generator _ _ inside
  · simp at comma
  · cases fragment <;> cases same

theorem entry_unclosed : .mark ")" ∉ entryTokens generator := by
  cases shape : generator.entry <;> simp [entryTokens, fragmentToken, shape]

theorem lines_split :
    (listingTokens generator).splitOn (.mark ")") =
      generator.procedures.toList.map (lineTokens generator) ++ [entryTokens generator] := by
  refine split_terminated _ _ _ ?_ (entry_unclosed generator)
  intro line member
  obtain ⟨named, -, rfl⟩ := List.mem_map.mp member
  exact line_unclosed generator named

theorem earlier_callable (names : ∀ named ∈ generator.procedures.toList, IsName named.name)
    (fragment : Fragment) (earlier : fragment.Earlier generator.procedures.size) :
    Callable generator fragment := by
  rintro index rfl
  have found := Array.getElem?_eq_getElem earlier
  have isName := names generator.procedures[index] (Array.getElem_mem_toList earlier)
  rwa [Generator.nameOf, found]

variable (distinct : (generator.procedures.toList.map NamedProcedure.name).Nodup)

include distinct

theorem name_place (index : Nat) (inside : index < generator.procedures.size) :
    (generator.procedures.toList.map NamedProcedure.name).idxOf? (generator.nameOf index) =
      some index := by
  have found := Array.getElem?_eq_getElem inside
  have within : index < (generator.procedures.toList.map NamedProcedure.name).length := by
    simpa using inside
  have called : (generator.procedures.toList.map NamedProcedure.name)[index] = generator.nameOf index := by
    simp [Generator.nameOf, found]
  refine List.idxOf?_eq_some_iff.mpr ⟨within, called, fun other before same => ?_⟩
  have differ := List.pairwise_iff_getElem.mp distinct other index (Nat.lt_trans before within) within before
  exact differ (same.trans called.symm)

theorem fragment_read (fragment : Fragment) (earlier : fragment.Earlier generator.procedures.size) :
    readFragment (generator.procedures.toList.map NamedProcedure.name)
      [fragmentToken generator fragment] = some fragment := by
  cases fragment with
  | constant text => rfl
  | reference index =>
      simp only [fragmentToken, readFragment, name_place generator distinct index earlier, Option.map_some]

theorem line_read (named : NamedProcedure)
    (earlier : AllEarlier generator.procedures.size named.procedure.operands) :
    readLine (generator.procedures.toList.map NamedProcedure.name) (lineTokens generator named) =
      some named.listed := by
  have kind := Kind.of_operation named.procedure.kind
  have operands := read_each (readFragment (generator.procedures.toList.map NamedProcedure.name))
    (fun operand => [fragmentToken generator operand]) id named.procedure.operands
    fun operand member => fragment_read generator distinct operand (earlier operand member)
  rw [← operands_commas, List.map_id] at operands
  change (do
    let kind ← Kind.ofOperation? named.procedure.kind.operation
    let operands ← (operandParts (operandTokens generator named.procedure.operands)).mapM
      (readFragment (generator.procedures.toList.map NamedProcedure.name))
    return (⟨named.name, kind, operands⟩ : Listed)) = some named.listed
  rw [kind, operands]
  rfl

theorem contents_read
    (lines : ∀ named ∈ generator.procedures.toList, IsName named.name ∧
      AllEarlier generator.procedures.size named.procedure.operands)
    (entry : generator.entry.Earlier generator.procedures.size) :
    Contents.read generator.listing = some generator.contents := by
  have callable := earlier_callable generator fun named member => (lines named member).1
  have lexed : lex .between generator.listing.toList = _ :=
    lexes_listing generator (fun named member => ⟨(lines named member).1, fun operand inside =>
      callable operand ((lines named member).2 operand inside)⟩) (callable _ entry)
  have names : (generator.procedures.toList.map (lineTokens generator)).filterMap lineName =
      generator.procedures.toList.map NamedProcedure.name := by
    rw [List.filterMap_map]
    exact congrFun List.filterMap_eq_map _
  have procedures := read_each (readLine (generator.procedures.toList.map NamedProcedure.name))
    (lineTokens generator) NamedProcedure.listed generator.procedures.toList
    fun named member => line_read generator distinct named (lines named member).2
  have last : readEntry (generator.procedures.toList.map NamedProcedure.name) (entryTokens generator) =
      some generator.entry := fragment_read generator distinct generator.entry entry
  simp only [Contents.read, lexed, lines_split, List.dropLast_concat, names, procedures,
    List.getLastD_concat, last, Option.bind_eq_bind, Option.bind_some]
  rfl

end

section

variable [Pattern.Engine]

theorem operands_earlier (number : Nat) (procedure : Procedure) (made : procedure.Sound number) :
    AllEarlier number procedure.operands := by
  intro operand member
  cases procedure with
  | concat parts => exact made operand member
  | choose alternatives => exact made.2 operand member
  | optional body =>
      rw [List.mem_singleton.mp member]
      exact made
  | regex pattern matched unmatched =>
      obtain rfl | rfl | rfl : operand = .constant pattern.text ∨ operand = matched ∨
          operand = unmatched := by
        simpa [Procedure.operands, Procedure.patternText, Procedure.fragments] using member
      · trivial
      · exact made.2.1
      · exact made.2.2
  | forward target =>
      rw [List.mem_singleton.mp member]
      exact made

section

variable (limit : Nat) (source : String) (grammar : Grammar) (generator : Generator)
  (read : Grammar.readWithin limit source = .ok grammar) (compiled : grammar.compile = .ok generator)

include read compiled

theorem compiled_lines :
    (∀ named ∈ generator.procedures.toList, IsName named.name ∧
      AllEarlier generator.procedures.size named.procedure.operands) ∧
      generator.entry.Earlier generator.procedures.size := by
  obtain ⟨sound, entry⟩ := compiled_sound Usable grammar generator
    (grammar.read_usable limit source read) compiled
  refine ⟨fun named member => ?_, entry⟩
  obtain ⟨number, inside, found⟩ := procedure_numbered generator named member
  have isName := reference_is_name generator sound number inside
  rw [Generator.nameOf, found] at isName
  refine ⟨isName, fun operand listed => earlier_more number _ operand ?_ (Nat.le_of_lt inside)⟩
  exact operands_earlier number _ (sound number named found).procedure operand listed

theorem listing_tells : Contents.read generator.listing = some generator.contents := by
  obtain ⟨sound, -⟩ := compiled_sound Usable grammar generator
    (grammar.read_usable limit source read) compiled
  obtain ⟨lines, entry⟩ := compiled_lines limit source grammar generator read compiled
  exact contents_read generator (names_distinct Usable generator.procedures sound) lines entry

end

theorem listed_procedure (keeps : ∀ text pattern, Pattern.Engine.read text = .ok pattern → pattern.text = text)
    (number number' : Nat) (procedure other : Procedure) (made : procedure.Sound number)
    (madeOther : other.Sound number') (kind : procedure.kind = other.kind)
    (operands : procedure.operands = other.operands) : procedure = other := by
  obtain ⟨texts, fragments⟩ := procedure.operands_tell other kind operands
  cases procedure <;> cases other <;> cases kind <;>
    simp only [Procedure.fragments, List.cons.injEq, and_true, Fragment.reference.injEq] at fragments
  case regex pattern matched unmatched pattern' matched' unmatched' =>
    obtain ⟨rfl, rfl⟩ := fragments
    obtain ⟨⟨text, first⟩, -⟩ := made
    obtain ⟨⟨text', second⟩, -⟩ := madeOther
    have same : pattern.text = pattern'.text := Option.some.inj texts
    rw [keeps text pattern first, keeps text' pattern' second] at same
    rw [same, second] at first
    rw [Except.ok.inj first]
  all_goals rw [fragments]

-- The listing of a generator is read back as what it lists, so no other generator has the same one.
theorem listing_unambiguous (limit : Nat) (source : String) (grammar : Grammar) (generator : Generator)
    (read : Grammar.readWithin limit source = .ok grammar) (compiled : grammar.compile = .ok generator) :
    Contents.read generator.listing = some generator.contents ∧
      ∀ (limit' : Nat) (source' : String) (grammar' : Grammar) (generator' : Generator),
        Grammar.readWithin limit' source' = .ok grammar' → grammar'.compile = .ok generator' →
        generator'.listing = generator.listing →
          generator'.procedures.size = generator.procedures.size ∧
          (∀ (number : Nat) (named named' : NamedProcedure),
            generator.procedures[number]? = some named → generator'.procedures[number]? = some named' →
              named'.name = named.name ∧ named'.procedure.kind = named.procedure.kind ∧
              named'.procedure.patternText = named.procedure.patternText ∧
              named'.procedure.fragments = named.procedure.fragments) ∧
          generator'.entry = generator.entry ∧
          ((∀ text pattern, Pattern.Engine.read text = .ok pattern → pattern.text = text) →
            generator' = generator) := by
  have tells := listing_tells limit source grammar generator read compiled
  refine ⟨tells, fun limit' source' grammar' generator' read' compiled' same => ?_⟩
  have tells' := listing_tells limit' source' grammar' generator' read' compiled'
  rw [same, tells] at tells'
  obtain ⟨lines, entry⟩ : generator.contents.procedures = generator'.contents.procedures ∧
      generator.contents.entry = generator'.contents.entry := by
    rw [Option.some.inj tells']
    exact ⟨rfl, rfl⟩
  have size : generator'.procedures.size = generator.procedures.size := by
    simpa [Generator.contents] using (congrArg List.length lines).symm
  have rows : ∀ (number : Nat) (named named' : NamedProcedure),
      generator.procedures[number]? = some named → generator'.procedures[number]? = some named' →
        named'.listed = named.listed := by
    intro number named named' found found'
    have line := congrArg (·[number]?) lines
    simpa [Generator.contents, found, found'] using line.symm
  refine ⟨size, fun number named named' found found' => ?_, entry.symm, fun keeps => ?_⟩
  · obtain ⟨name, kind, operands⟩ := Listed.mk.inj (rows number named named' found found')
    exact ⟨name, kind, Procedure.operands_tell _ _ kind operands⟩
  · obtain ⟨sound, -⟩ := compiled_earlier grammar generator compiled
    obtain ⟨sound', -⟩ := compiled_earlier grammar' generator' compiled'
    have table : generator'.procedures = generator.procedures := by
      refine Array.ext size fun number inside' inside => ?_
      have found := Array.getElem?_eq_getElem inside
      have found' := Array.getElem?_eq_getElem inside'
      obtain ⟨name, kind, operands⟩ := Listed.mk.inj (rows number _ _ found found')
      have procedure := listed_procedure keeps number number _ _ (sound' number _ found').1
        (sound number _ found).1 kind operands
      exact congrArg₂ NamedProcedure.mk name procedure
    rcases generator with ⟨procedures, own⟩
    rcases generator' with ⟨procedures', own'⟩
    cases table
    cases entry
    rfl

end

-- (& '\)' "entry = " |('_0' '", "'))
def misleading : Grammar where
  opening := ⟨0, 1⟩
  statements :=
    [.regex ⟨1, 1⟩ ⟨"\\)", '\'', ⟨3, 4⟩⟩ (.literal ⟨"entry = ", '"', ⟨8, 10⟩⟩)
      (.choose ⟨19, 1⟩ ⟨20, 1⟩
        [.literal ⟨"_0", '\'', ⟨21, 4⟩⟩, .literal ⟨"\", \"", '\'', ⟨26, 6⟩⟩] ⟨32, 1⟩)]
  closing := ⟨33, 1⟩

theorem listing_unambiguous_misleading :
    let generator : Generator :=
      ⟨#[⟨"_0", .choose [.constant "_0", .constant "\", \""]⟩,
        ⟨"_1", .regex ⟨"\\)", .one [(41, 41)]⟩ (.constant "entry = ") (.reference 0)⟩], .reference 1⟩
    let contents : Contents :=
      ⟨[⟨"_0", .choose, [.constant "_0", .constant "\", \""]⟩,
        ⟨"_1", .regex, [.constant "\\)", .constant "entry = ", .reference 0]⟩], .reference 1⟩
    Grammar.readWithin 3 "(& '\\)' \"entry = \" |('_0' '\", \"'))" = .ok misleading ∧
      misleading.compile = .ok generator ∧ Contents.read generator.listing = some contents ∧
      ∀ (limit : Nat) (source : String) (grammar : Grammar) (other : Generator),
        Grammar.readWithin limit source = .ok grammar → grammar.compile = .ok other →
          other.listing = generator.listing → other = generator := by
  intro generator contents
  have read : Grammar.readWithin 3 "(& '\\)' \"entry = \" |('_0' '\", \"'))" = .ok misleading := by rfl
  have compiled : misleading.compile = .ok generator := by rfl
  obtain ⟨tells, unique⟩ := listing_unambiguous 3 _ misleading generator read compiled
  refine ⟨read, compiled, tells, fun limit source grammar other reads compiles same => ?_⟩
  obtain ⟨-, -, -, equal⟩ := unique limit source grammar other reads compiles same
  exact equal Pattern.read_text

end TextGrammar
