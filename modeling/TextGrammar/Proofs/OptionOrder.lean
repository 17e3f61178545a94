import Mathlib.Data.List.Perm.Basic
import Mathlib.Logic.Function.Basic
import TextGrammar.Command.Session

set_option autoImplicit false

namespace TextGrammar

inductive Switch where
  | version
  | help
  | overwrite
  | seed
  | count
  | encoding
deriving DecidableEq

namespace Switch

def Value : Switch → Type
  | version | help | overwrite => Unit
  | seed | count | encoding => String

def test : (switch : Switch) → String → Option switch.Value
  | version => isWord versionWords
  | help => isWord helpWords
  | overwrite => isWord ["--overwrite"]
  | seed => valueBehind "--seed="
  | count => valueBehind "--count="
  | encoding => valueBehind "--encoding="

def all : List Switch := [version, help, overwrite, seed, count, encoding]

theorem mem_all (switch : Switch) : switch ∈ all := by
  cases switch <;> decide

def Takes (switch : Switch) (argument : String) : Prop := (switch.test argument).isSome

instance (switch : Switch) (argument : String) : Decidable (switch.Takes argument) :=
  inferInstanceAs (Decidable ((switch.test argument).isSome = true))

theorem test_none (switch : Switch) (argument : String) :
    switch.test argument = none ↔ ¬ switch.Takes argument := by
  simp [Takes]

def beginnings : Switch → List (List Char)
  | version => [['-', 'V'], ['-', 'v'], ['-', '-', 'v']]
  | help => [['-', 'h'], ['-', '-', 'h']]
  | overwrite => [['-', '-', 'o']]
  | seed => [['-', '-', 's']]
  | count => [['-', '-', 'c']]
  | encoding => [['-', '-', 'e']]

theorem word_taken (words : List String) (argument : String)
    (taken : (isWord words argument).isSome) : argument ∈ words := by
  by_contra other
  simp [isWord, other] at taken

theorem value_taken (beginning argument : String)
    (taken : (valueBehind beginning argument).isSome) :
    ∃ value, argument.toList = beginning.toList ++ value := by
  obtain ⟨value, found⟩ := Option.isSome_iff_exists.mp taken
  obtain ⟨rest, split, -⟩ := Option.map_eq_some_iff.mp found
  exact ⟨rest, (List.isPrefixOf?_eq_some_iff_append_eq.mp split).symm⟩

theorem taken_begins (switch : Switch) (argument : String) (taken : switch.Takes argument) :
    argument.toList.take 3 ∈ switch.beginnings := by
  cases switch with
  | version =>
      have word : argument ∈ versionWords := word_taken _ _ taken
      exact (by decide : ∀ word ∈ versionWords, word.toList.take 3 ∈ version.beginnings) _ word
  | help =>
      have word : argument ∈ helpWords := word_taken _ _ taken
      exact (by decide : ∀ word ∈ helpWords, word.toList.take 3 ∈ help.beginnings) _ word
  | overwrite =>
      obtain rfl : argument = "--overwrite" := List.mem_singleton.mp (word_taken _ _ taken)
      decide
  | seed | count | encoding =>
      obtain ⟨value, shape⟩ := value_taken _ _ taken
      rw [shape]
      exact .head _

theorem takes_unique (one other : Switch) (argument : String) (first : one.Takes argument)
    (second : other.Takes argument) : one = other := by
  have apart : ∀ one ∈ all, ∀ other ∈ all, ∀ beginning ∈ one.beginnings,
      beginning ∈ other.beginnings → one = other := by decide
  exact apart one one.mem_all other other.mem_all _ (taken_begins one argument first)
    (taken_begins other argument second)

end Switch

abbrev Findings := (switch : Switch) → Option switch.Value

-- One scan after the other, each through what the ones before it have left.
def scan : List Switch → List String → Findings × List String
  | [], arguments => (fun _ => none, arguments)
  | switch :: order, arguments =>
      let (found, others) := takeFirst switch.test arguments
      let (findings, left) := scan order others
      (Function.update findings switch found, left)

def Arguments.ofFindings (findings : Findings) (operands : List String) : Arguments :=
  ⟨(findings .version).isSome, (findings .help).isSome, (findings .overwrite).isSome,
    findings .seed, findings .count, findings .encoding, operands⟩

theorem of_list_scan (arguments : List String) :
    Arguments.ofList arguments =
      Arguments.ofFindings (scan Switch.all arguments).1 (scan Switch.all arguments).2 := rfl

def IsFirst (switches : List Switch) (earlier : List String) (argument : String) : Prop :=
  ∃ switch ∈ switches, switch.Takes argument ∧ ∀ before ∈ earlier, ¬ switch.Takes before

instance (switches : List Switch) (earlier : List String) (argument : String) :
    Decidable (IsFirst switches earlier argument) :=
  inferInstanceAs (Decidable (∃ switch ∈ switches, _))

def leftOver (switches : List Switch) (earlier : List String) : List String → List String
  | [] => []
  | argument :: rest =>
      let others := leftOver switches (earlier ++ [argument]) rest
      if IsFirst switches earlier argument then others else argument :: others

def firstValues (arguments : List String) : Findings := fun switch =>
  arguments.findSome? switch.test

theorem first_cons (switch : Switch) (switches : List Switch) (earlier : List String)
    (argument : String) :
    IsFirst (switch :: switches) earlier argument ↔
      (switch.Takes argument ∧ ∀ before ∈ earlier, ¬ switch.Takes before) ∨
        IsFirst switches earlier argument := by
  simp [IsFirst]

theorem left_over_earlier (switches : List Switch) (earlier earlier' arguments : List String)
    (same : ∀ switch ∈ switches,
      (∀ before ∈ earlier, ¬ switch.Takes before) ↔ ∀ before ∈ earlier', ¬ switch.Takes before) :
    leftOver switches earlier arguments = leftOver switches earlier' arguments := by
  induction arguments generalizing earlier earlier' with
  | nil => rfl
  | cons argument rest ih =>
      have first : IsFirst switches earlier argument ↔ IsFirst switches earlier' argument :=
        exists_congr fun switch => and_congr_right fun member =>
          and_congr_right fun _ => same switch member
      have others := ih (earlier ++ [argument]) (earlier' ++ [argument]) fun switch member => by
        simp only [List.forall_mem_append, same switch member]
      simp only [leftOver, first, others]

theorem left_over_found (switch : Switch) (switches : List Switch)
    (earlier arguments : List String) (before : String) (stands : before ∈ earlier)
    (taken : switch.Takes before) :
    leftOver (switch :: switches) earlier arguments = leftOver switches earlier arguments := by
  induction arguments generalizing earlier with
  | nil => rfl
  | cons argument rest ih =>
      have first : IsFirst (switch :: switches) earlier argument ↔
          IsFirst switches earlier argument :=
        (first_cons _ _ _ _).trans (or_iff_right fun ⟨_, fresh⟩ => fresh before stands taken)
      simp only [leftOver, first, ih (earlier ++ [argument]) (List.mem_append_left _ stands)]

theorem left_over_take (switch : Switch) (switches : List Switch)
    (earlier arguments : List String) (other : switch ∉ switches)
    (fresh : ∀ before ∈ earlier, ¬ switch.Takes before) :
    leftOver switches earlier (takeFirst switch.test arguments).2 =
      leftOver (switch :: switches) earlier arguments := by
  induction arguments generalizing earlier with
  | nil => rfl
  | cons argument rest ih =>
      rw [takeFirst]
      cases tested : switch.test argument with
      | none =>
          have passed : ¬ switch.Takes argument := (switch.test_none argument).mp tested
          have first : IsFirst (switch :: switches) earlier argument ↔
              IsFirst switches earlier argument :=
            (first_cons _ _ _ _).trans (or_iff_right fun ⟨taken, _⟩ => passed taken)
          have others := ih (earlier ++ [argument])
            (List.forall_mem_append.mpr ⟨fresh, by simpa using passed⟩)
          simp only [leftOver, first, others]
      | some value =>
          have taken : switch.Takes argument := by simp [Switch.Takes, tested]
          have first : IsFirst (switch :: switches) earlier argument :=
            ⟨switch, .head _, taken, fresh⟩
          rw [leftOver, if_pos first,
            left_over_found switch switches (earlier ++ [argument]) rest argument (by simp) taken]
          refine left_over_earlier switches earlier (earlier ++ [argument]) rest ?_
          intro further member
          have passed : ¬ further.Takes argument := fun again =>
            other (Switch.takes_unique further switch argument again taken ▸ member)
          simp only [List.forall_mem_append, List.forall_mem_singleton, passed, not_false_eq_true,
            and_true]

theorem take_first_value {α : Type} (test : String → Option α) (arguments : List String) :
    (takeFirst test arguments).1 = arguments.findSome? test := by
  induction arguments with
  | nil => rfl
  | cons argument rest ih =>
      rw [takeFirst, List.findSome?_cons]
      cases test argument with
      | none => exact ih
      | some value => rfl

theorem take_first_others (one other : Switch) (apart : one ≠ other) (arguments : List String) :
    (takeFirst one.test arguments).2.findSome? other.test = arguments.findSome? other.test := by
  induction arguments with
  | nil => rfl
  | cons argument rest ih =>
      rw [takeFirst]
      cases tested : one.test argument with
      | none => simp only [List.findSome?_cons, ih]
      | some value =>
          have passed : other.test argument = none := by
            refine (other.test_none argument).mpr fun taken => apart ?_
            exact Switch.takes_unique one other argument (by simp [Switch.Takes, tested]) taken
          simp only [List.findSome?_cons, passed]

theorem scan_findings (order : List Switch) (arguments : List String) (switch : Switch)
    (wanted : switch ∈ order) : (scan order arguments).1 switch = firstValues arguments switch := by
  induction order generalizing arguments with
  | nil => cases wanted
  | cons first order ih =>
      rw [scan]
      by_cases same : switch = first
      · subst same
        exact (Function.update_self _ _ _).trans (take_first_value _ _)
      · have later : switch ∈ order := (List.mem_cons.mp wanted).resolve_left same
        exact (Function.update_of_ne same _ _).trans
          ((ih _ later).trans (take_first_others first switch (Ne.symm same) arguments))

theorem scan_left (order : List Switch) (arguments : List String) (distinct : order.Nodup) :
    (scan order arguments).2 = leftOver order [] arguments := by
  induction order generalizing arguments with
  | nil =>
      have none : ∀ earlier, leftOver [] earlier arguments = arguments := by
        induction arguments with
        | nil => exact fun _ => rfl
        | cons argument rest ih => exact fun earlier => by simp [leftOver, IsFirst, ih]
      exact (none []).symm
  | cons switch order ih =>
      obtain ⟨other, distinct⟩ := List.nodup_cons.mp distinct
      rw [scan]
      exact (ih _ distinct).trans (left_over_take switch order [] arguments other (by simp))

theorem left_over_members (switches switches' : List Switch) (earlier arguments : List String)
    (same : ∀ switch, switch ∈ switches ↔ switch ∈ switches') :
    leftOver switches earlier arguments = leftOver switches' earlier arguments := by
  induction arguments generalizing earlier with
  | nil => rfl
  | cons argument rest ih =>
      have first : IsFirst switches earlier argument ↔ IsFirst switches' earlier argument :=
        exists_congr fun switch => and_congr_left fun _ => same switch
      simp only [leftOver, first, ih]

theorem scan_eq (order : List Switch) (arguments : List String) (complete : order.Perm Switch.all) :
    scan order arguments = (firstValues arguments, leftOver Switch.all [] arguments) := by
  refine Prod.ext (funext fun switch => ?_) ?_
  · exact scan_findings order arguments switch (complete.mem_iff.mpr switch.mem_all)
  · rw [scan_left order arguments (complete.nodup_iff.mpr (by decide))]
    exact left_over_members _ _ _ _ fun switch => complete.mem_iff

def Unambiguous (arguments : List String) : Prop :=
  arguments.Pairwise fun first second => ∀ switch ∈ Switch.all,
    ¬ (switch.Takes first ∧ switch.Takes second)

instance (arguments : List String) : Decidable (Unambiguous arguments) :=
  inferInstanceAs (Decidable (List.Pairwise _ arguments))

def IsOption (argument : String) : Prop := ∃ switch ∈ Switch.all, switch.Takes argument

instance (argument : String) : Decidable (IsOption argument) :=
  inferInstanceAs (Decidable (∃ switch ∈ Switch.all, _))

theorem unambiguous_value (arguments : List String) (single : Unambiguous arguments)
    (switch : Switch) (value : switch.Value) :
    firstValues arguments switch = some value ↔
      ∃ argument ∈ arguments, switch.test argument = some value := by
  refine ⟨List.exists_of_findSome?_eq_some, ?_⟩
  rintro ⟨argument, member, tested⟩
  have taken : switch.Takes argument := by simp [Switch.Takes, tested]
  induction arguments with
  | nil => cases member
  | cons first rest ih =>
      obtain ⟨alone, single⟩ := List.pairwise_cons.mp single
      rw [firstValues, List.findSome?_cons]
      cases member with
      | head => simp [tested]
      | tail _ later =>
          have passed : switch.test first = none :=
            (switch.test_none first).mpr fun twice =>
              alone argument later switch switch.mem_all ⟨twice, taken⟩
          rw [passed]
          exact ih single later

theorem unambiguous_left (earlier arguments : List String)
    (single : Unambiguous (earlier ++ arguments)) :
    leftOver Switch.all earlier arguments = arguments.filter fun argument => ¬ IsOption argument := by
  induction arguments generalizing earlier with
  | nil => rfl
  | cons argument rest ih =>
      have first : IsFirst Switch.all earlier argument ↔ IsOption argument := by
        refine exists_congr fun switch => and_congr_right fun member => and_iff_left_of_imp ?_
        intro taken before stands again
        obtain ⟨-, -, apart⟩ := List.pairwise_append.mp single
        exact apart before stands argument (.head _) switch member ⟨again, taken⟩
      have others := ih (earlier ++ [argument]) (by simpa using single)
      by_cases option : IsOption argument <;> simp [leftOver, first, others, option]

theorem same_options (first second : List String) (single : Unambiguous first)
    (single' : Unambiguous second)
    (options : ∀ argument, IsOption argument → (argument ∈ first ↔ argument ∈ second))
    (operands : (first.filter fun argument => ¬ IsOption argument) =
      second.filter fun argument => ¬ IsOption argument) :
    Arguments.ofList first = Arguments.ofList second := by
  have values : firstValues first = firstValues second := by
    funext switch
    refine Option.ext fun value => ?_
    rw [unambiguous_value first single, unambiguous_value second single']
    refine exists_congr fun argument => and_congr_left fun tested => options argument ?_
    exact ⟨switch, switch.mem_all, by simp [Switch.Takes, tested]⟩
  have left : leftOver Switch.all [] first = leftOver Switch.all [] second := by
    rw [unambiguous_left [] first single, unambiguous_left [] second single', operands]
  rw [of_list_scan, of_list_scan, scan_eq _ first (.refl _), scan_eq _ second (.refl _), values, left]

-- The command line is read as if every option had been found in the whole list, and the scans may be
-- made in any order. Moving options about changes nothing of the reply.
theorem options_anywhere (arguments : List String) :
    (∀ order : List Switch, order.Perm Switch.all →
      scan order arguments = (firstValues arguments, leftOver Switch.all [] arguments)) ∧
    Arguments.ofList arguments =
      Arguments.ofFindings (firstValues arguments) (leftOver Switch.all [] arguments) ∧
    ∀ moved : List String, Unambiguous arguments → Unambiguous moved →
      (∀ argument, IsOption argument → (argument ∈ arguments ↔ argument ∈ moved)) →
      ((arguments.filter fun argument => ¬ IsOption argument) =
        moved.filter fun argument => ¬ IsOption argument) →
      Arguments.ofList arguments = Arguments.ofList moved ∧
        ∀ (m : Type → Type) [Monad m] [Host m] [Pattern.Engine] (surroundings : Surroundings),
          (surroundings.reply arguments : m Exit) = surroundings.reply moved := by
  refine ⟨fun order complete => scan_eq order arguments complete, ?_, ?_⟩
  · rw [of_list_scan, scan_eq _ arguments (.refl _)]
  · intro moved single single' options operands
    have same := same_options arguments moved single single' options operands
    exact ⟨same, fun _ _ _ _ surroundings => by unfold Surroundings.reply; rw [same]⟩

-- Two of the words look like options and are none: one has no value, the other capitals.
def interspersed : List String := ["--seed=7", "run", "--seed", "--count=2", "--HELP", "--overwrite"]

def gathered : List String := ["--overwrite", "--count=2", "--seed=7", "run", "--seed", "--HELP"]

theorem options_anywhere_gathered :
    Switch.all.reverse.Perm Switch.all ∧ Unambiguous interspersed ∧ Unambiguous gathered ∧
    (∀ argument, IsOption argument → (argument ∈ interspersed ↔ argument ∈ gathered)) ∧
    (interspersed.filter fun argument => ¬ IsOption argument) = ["run", "--seed", "--HELP"] ∧
    (gathered.filter fun argument => ¬ IsOption argument) = ["run", "--seed", "--HELP"] ∧
    (scan Switch.all.reverse interspersed).2 = ["run", "--seed", "--HELP"] ∧
    Arguments.ofList gathered =
      ⟨false, false, true, some "7", some "2", none, ["run", "--seed", "--HELP"]⟩ ∧
    ∀ (m : Type → Type) [Monad m] [Host m] [Pattern.Engine] (surroundings : Surroundings),
      (surroundings.reply interspersed : m Exit) = surroundings.reply gathered := by
  obtain ⟨orders, -, moves⟩ := options_anywhere interspersed
  have reversed : Switch.all.reverse.Perm Switch.all := List.reverse_perm _
  have single : Unambiguous interspersed := by decide
  have single' : Unambiguous gathered := by decide
  have options : ∀ argument, IsOption argument → (argument ∈ interspersed ↔ argument ∈ gathered) :=
    fun argument _ => (by decide : interspersed.Perm gathered).mem_iff
  have left : (interspersed.filter fun argument => ¬ IsOption argument) =
      ["run", "--seed", "--HELP"] := by decide
  have left' : (gathered.filter fun argument => ¬ IsOption argument) =
      ["run", "--seed", "--HELP"] := by decide
  obtain ⟨same, replies⟩ := moves gathered single single' options (left.trans left'.symm)
  refine ⟨reversed, single, single', options, left, left', ?_, ?_, replies⟩
  · rw [orders _ reversed]
    decide
  · rw [← same]
    decide

end TextGrammar
