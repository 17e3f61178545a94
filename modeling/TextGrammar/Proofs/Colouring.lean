import TextGrammar.Proofs.CodePointSets
import TextGrammar.Proofs.ListingReading

set_option autoImplicit false

namespace TextGrammar

def behindSequence : List Char → Option (List Char)
  | '\x1b' :: '[' :: rest =>
      match rest.takeWhile Char.isDigit, rest.dropWhile Char.isDigit with
      | _ :: _, 'm' :: behind => some behind
      | _, _ => none
  | _ => none

theorem behind_shorter (text behind : List Char) (begins : behindSequence text = some behind) :
    behind.length < text.length := by
  unfold behindSequence at begins
  split at begins
  · rename_i rest
    split at begins
    · rename_i shape
      cases begins
      have shorter := (List.dropWhile_suffix Char.isDigit (l := rest)).length_le
      rw [shape] at shorter
      simp only [List.length_cons] at shorter ⊢
      omega
    · cases begins
  · cases begins

def uncoloured : List Char → List Char
  | [] => []
  | c :: rest =>
      match _begins : behindSequence (c :: rest) with
      | some behind => uncoloured behind
      | none => c :: uncoloured rest
termination_by text => text.length
decreasing_by
  · exact behind_shorter _ _ _begins
  · exact Nat.lt_succ_self _

def behindBar : List Char → Option (List Char)
  | ' ' :: '|' :: ' ' :: rest => some rest
  | _ :: rest => behindBar rest
  | [] => none

def unmarked (line : List Char) : List Char := (behindBar line).getD line

def linesOf (text : List Char) : List (List Char) := text.splitOn '\n'

def linePrefixes (count : Nat) : List (List Char) :=
  (List.range count).map (fun index => (fourDigits index ++ " | ").toList) ++ ["---- | ".toList, []]

theorem uncoloured_skips (text behind : List Char) (begins : behindSequence text = some behind) :
    uncoloured text = uncoloured behind := by
  cases text with
  | nil => cases begins
  | cons c rest =>
      rw [uncoloured]
      split
      · rename_i found
        rw [begins] at found
        rw [Option.some.inj found]
      · rename_i found
        rw [begins] at found
        cases found

theorem uncoloured_keeps (c : Char) (rest : List Char) (other : c ≠ '\x1b') :
    uncoloured (c :: rest) = c :: uncoloured rest := by
  have none : behindSequence (c :: rest) = none := by
    unfold behindSequence
    split
    · rename_i same
      exact absurd (List.cons.inj same).1 other
    · rfl
  rw [uncoloured]
  split
  · rename_i found
    rw [none] at found
    cases found
  · rfl

theorem uncoloured_sequence (number : Nat) (rest : List Char) :
    uncoloured ('\x1b' :: '[' :: (Nat.toDigits 10 number ++ 'm' :: rest)) = uncoloured rest := by
  have digits : ∀ c ∈ Nat.toDigits 10 number, c.isDigit = true := fun c member =>
    Nat.isDigit_of_mem_toDigits (by omega) (by omega) member
  obtain ⟨taken, dropped⟩ :=
    Cursor.take_while_maximal Char.isDigit _ ('m' :: rest) digits (by simp)
  obtain ⟨first, others, spelled⟩ := List.exists_cons_of_ne_nil (Nat.toDigits_ne_nil (n := number) (b := 10))
  rw [spelled] at taken dropped ⊢
  exact uncoloured_skips _ rest (by simp only [behindSequence, taken, dropped])

theorem behind_bar_mark (mark line : List Char) (free : ' ' ∉ mark) :
    behindBar (mark ++ (' ' :: '|' :: ' ' :: line)) = some line := by
  induction mark with
  | nil => rfl
  | cons c mark ih =>
      obtain ⟨first, others⟩ := not_or.mp (mt List.mem_cons.mpr free)
      rw [List.cons_append, behindBar, ih others]
      exact fun rest same _ => first same.symm

def Shown (text : String) : Prop := ∀ c ∈ text.toList, 0x20 ≤ c.toNat

instance (text : String) : Decidable (Shown text) :=
  List.decidableBAll (fun c : Char => 0x20 ≤ c.toNat) text.toList

theorem Shown.append {text other : String} (first : Shown text) (second : Shown other) :
    Shown (text ++ other) := by
  unfold Shown
  rw [String.toList_append, List.forall_mem_append]
  exact ⟨first, second⟩

theorem hex_digit (number : Nat) : ∀ c ∈ Nat.toDigits 16 number, ∃ digit < 16, c = digit.digitChar := by
  induction number using Nat.strongRecOn with
  | ind number ih =>
      by_cases small : number < 16
      · rw [Nat.toDigits_of_lt_base small]
        intro c member
        exact ⟨number, small, List.mem_singleton.mp member⟩
      · rw [Nat.toDigits_of_base_le (by omega) (by omega), List.forall_mem_append]
        refine ⟨ih (number / 16) (by omega), fun c member => ?_⟩
        exact ⟨number % 16, by omega, List.mem_singleton.mp member⟩

theorem digits_shown (number : Nat) : Shown (Quoted.hex number) := by
  intro c member
  rw [Quoted.hex, String.toList_ofList] at member
  obtain ⟨digit, small, rfl⟩ := hex_digit number c member
  have all : ∀ digit < 16, 0x20 ≤ digit.digitChar.toNat := by decide
  exact all digit small

theorem escape_shown (c : Char) : Shown (Quoted.escape c) := by
  unfold Quoted.escape
  split_ifs
  iterate 6 decide
  · have opening : Shown "\\u\x7b" := by decide
    have closing : Shown "\x7d" := by decide
    exact (opening.append (digits_shown c.toNat)).append closing
  · rename_i printable
    intro other member
    have same : other = c := by simpa using member
    rw [same]
    by_contra control
    exact printable (Unicode.control_unprintable c.toNat (Nat.lt_of_not_le control))

theorem quote_shown (text : String) : Shown (Quoted.quote text) := by
  have inside : ∀ chars, Shown (Quoted.escapeAll chars) := by
    intro chars
    induction chars with
    | nil => exact fun _ => nofun
    | cons c rest ih => exact (escape_shown c).append ih
  have mark : Shown "\"" := by decide
  exact (mark.append (inside text.toList)).append mark

theorem name_shown (name : String) (isName : Rust.IsName name) : Shown name := by
  obtain ⟨c, rest, spelled, starts, chars⟩ := isName.word
  have wide : ∀ c, Rust.isWordChar c = true → 0x20 ≤ c.toNat := by
    intro c word
    by_contra control
    have below : ∀ point < 0x20, Rust.isWordChar (Char.ofNat point) = false := by decide
    have narrow := below c.toNat (Nat.lt_of_not_le control)
    rw [Char.ofNat_toNat, word] at narrow
    cases narrow
  have first : Rust.isWordChar c = true := by rw [Rust.isWordChar, starts, Bool.true_or]
  unfold Shown
  rw [spelled]
  exact List.forall_mem_cons.mpr ⟨wide c first, fun other member => wide other (chars other member)⟩

-- Without its sequences the one text is the other, whatever follows.
def Uncolours (coloured plain : String) : Prop :=
  ∀ rest, uncoloured (coloured.toList ++ rest) = plain.toList ++ uncoloured rest

theorem Uncolours.append {coloured plain coloured' plain' : String} (first : Uncolours coloured plain)
    (second : Uncolours coloured' plain') : Uncolours (coloured ++ coloured') (plain ++ plain') := by
  intro rest
  rw [String.toList_append, List.append_assoc, first, second, String.toList_append, List.append_assoc]

theorem uncolours_shown (text : String) (shown : Shown text) : Uncolours text text := by
  intro rest
  unfold Shown at shown
  generalize text.toList = chars at shown
  induction chars with
  | nil => rfl
  | cons c chars ih =>
      obtain ⟨first, others⟩ := List.forall_mem_cons.mp shown
      have other : c ≠ '\x1b' := by
        rintro rfl
        exact absurd first (by decide)
      rw [List.cons_append, uncoloured_keeps c _ other, ih others, List.cons_append]

theorem uncolours_end : Uncolours "\n" "\n" := fun rest => uncoloured_keeps '\n' rest (by decide)

theorem uncolours_join {α : Type} (coloured plain : α → String) (entries : List α)
    (each : ∀ entry ∈ entries, Uncolours (coloured entry) (plain entry)) :
    Uncolours (String.join (entries.map coloured)) (String.join (entries.map plain)) := by
  induction entries with
  | nil => exact fun _ => rfl
  | cons entry rest ih =>
      obtain ⟨first, others⟩ := List.forall_mem_cons.mp each
      rw [List.map_cons, String.join_cons, List.map_cons, String.join_cons]
      exact first.append (ih others)

structure Painted (coloured plain : String) : Prop where
  uncolours : Uncolours coloured plain
  shown : Shown plain

theorem Painted.append {coloured plain coloured' plain' : String} (first : Painted coloured plain)
    (second : Painted coloured' plain') : Painted (coloured ++ coloured') (plain ++ plain') :=
  ⟨first.uncolours.append second.uncolours, first.shown.append second.shown⟩

theorem painted_same (text : String) (shown : Shown text) : Painted text text :=
  ⟨uncolours_shown text shown, shown⟩

theorem painted_paint (colour : Colour) (text : String) (shown : Shown text) :
    Painted (colour.paint text) text := by
  refine ⟨fun rest => ?_, shown⟩
  have spelled : (colour.paint text).toList ++ rest =
      '\x1b' :: '[' :: (Nat.toDigits 10 colour.code ++ 'm' ::
        (text.toList ++ '\x1b' :: '[' :: (Nat.toDigits 10 0 ++ 'm' :: rest))) := by
    simp [Colour.paint]
  rw [spelled, uncoloured_sequence, uncolours_shown text shown, uncoloured_sequence]

theorem painted_intercalate {α : Type} (coloured plain : α → String) (entries : List α)
    (each : ∀ entry ∈ entries, Painted (coloured entry) (plain entry)) :
    Painted (String.intercalate ", " (entries.map coloured))
      (String.intercalate ", " (entries.map plain)) := by
  induction entries with
  | nil => exact painted_same "" (by decide)
  | cons entry rest ih =>
      obtain ⟨first, others⟩ := List.forall_mem_cons.mp each
      cases rest with
      | nil => simpa using first
      | cons entry' rest =>
          have comma := painted_same ", " (by decide)
          simpa [String.intercalate_cons_cons] using (first.append comma).append (ih others)

theorem lines_joined {α : Type} (write : α → String) (entries : List α)
    (shown : ∀ entry ∈ entries, Shown (write entry)) :
    linesOf (String.join (entries.map fun entry => write entry ++ "\n")).toList =
      entries.map (fun entry => (write entry).toList) ++ [[]] := by
  have spelled : (String.join (entries.map fun entry => write entry ++ "\n")).toList =
      (entries.map fun entry => (write entry).toList).flatMap (· ++ ['\n']) ++ [] := by
    simp [String.toList_join, List.flatMap_map]
  rw [linesOf, spelled]
  refine split_terminated '\n' _ [] (fun line member ends => ?_) List.not_mem_nil
  obtain ⟨entry, inside, rfl⟩ := List.mem_map.mp member
  exact absurd (shown entry inside '\n' ends) (by decide)

-- A mark in front of a line has no blank, so the bar behind it is the first one of its line.
def IsMark (mark : String) : Prop := ∀ c ∈ mark.toList, 0x20 < c.toNat

instance (mark : String) : Decidable (IsMark mark) :=
  List.decidableBAll (fun c : Char => 0x20 < c.toNat) mark.toList

theorem mark_shown (mark : String) (isMark : IsMark mark) : Shown mark := fun c member =>
  Nat.le_of_lt (isMark c member)

theorem unmarked_mark (mark text : String) (isMark : IsMark mark) :
    unmarked (mark ++ " | " ++ text).toList = text.toList := by
  have spelled : (mark ++ " | " ++ text).toList = mark.toList ++ (' ' :: '|' :: ' ' :: text.toList) := by
    simp
  have free : ' ' ∉ mark.toList := fun blank => absurd (isMark ' ' blank) (by decide)
  rw [unmarked, spelled, behind_bar_mark mark.toList text.toList free, Option.getD_some]

theorem four_digits_mark (number : Nat) : IsMark (fourDigits number) := by
  have spelled : (fourDigits number).toList =
      List.replicate (4 - (toString number).length) '0' ++ Nat.toDigits 10 number := by
    simp [fourDigits]
  unfold IsMark
  rw [spelled, List.forall_mem_append]
  refine ⟨fun c member => List.eq_of_mem_replicate member ▸ (by decide), fun c member => ?_⟩
  have digit := Nat.isDigit_of_mem_toDigits (by omega) (by omega) member
  simp only [Char.isDigit, Bool.and_eq_true, decide_eq_true_eq] at digit
  exact Nat.lt_of_lt_of_le (by decide) digit.1

section

variable (generator : Generator)

def colouredLines : Layout := ⟨true, true⟩

def numberedLines : Layout := ⟨true, false⟩

theorem painted_fragment (fragment : Fragment) (callable : Callable generator fragment) :
    Painted (generator.listFragment colouredLines fragment) (generator.listFragment Layout.plain fragment) := by
  cases fragment with
  | constant text => exact painted_paint .green _ (quote_shown text)
  | reference index => exact painted_paint .blue _ (name_shown _ (callable index rfl))

def colouredText (named : NamedProcedure) : String :=
  Colour.blue.paint named.name ++ " = " ++ Colour.purple.paint named.procedure.operation ++ "(" ++
    generator.listFragments colouredLines named.procedure.operands ++ ")"

def colouredEntry : String :=
  Colour.bold.paint "entry" ++ " = " ++ generator.listFragment colouredLines generator.entry

theorem painted_text (named : NamedProcedure) (isName : Rust.IsName named.name)
    (callable : ∀ operand ∈ named.procedure.operands, Callable generator operand) :
    Painted (colouredText generator named) (lineText generator named) := by
  have operation : Shown named.procedure.operation := by
    rw [← Procedure.kind_operation]
    cases named.procedure.kind <;> decide
  have operands := painted_intercalate (generator.listFragment colouredLines)
    (generator.listFragment Layout.plain) named.procedure.operands fun operand member =>
      painted_fragment generator operand (callable operand member)
  have name := painted_paint .blue named.name (name_shown _ isName)
  have equals := painted_same " = " (by decide)
  have opens := painted_same "(" (by decide)
  have closes := painted_same ")" (by decide)
  exact ((((name.append equals).append (painted_paint .purple _ operation)).append opens).append
    operands).append closes

theorem painted_entry (callable : Callable generator generator.entry) :
    Painted (colouredEntry generator) (entryText generator) := by
  have word := painted_paint .bold "entry" (by decide)
  have equals := painted_same " = " (by decide)
  exact (word.append equals).append (painted_fragment generator _ callable)

theorem fragment_numbered (fragment : Fragment) :
    generator.listFragment numberedLines fragment = generator.listFragment Layout.plain fragment := by
  cases fragment <;> rfl

theorem procedure_numbered_line (index : Nat) (named : NamedProcedure) :
    generator.listProcedure numberedLines index named =
      fourDigits index ++ " | " ++ lineText generator named ++ "\n" := by
  have ended : ")\n" = ")" ++ "\n" := by decide
  have same := funext (fragment_numbered generator)
  simp only [Generator.listProcedure, list_operands, Generator.listFragments, same, lineText, ended,
    String.append_assoc]
  rfl

theorem entry_numbered_line :
    generator.listEntry numberedLines = "----" ++ " | " ++ entryText generator ++ "\n" := by
  have word : "entry = " = "entry" ++ " = " := by decide
  simp only [Generator.listEntry, fragment_numbered, entryText, word, String.append_assoc]
  rfl

theorem procedure_coloured_line (index : Nat) (named : NamedProcedure) :
    generator.listProcedure colouredLines index named =
      Colour.dim.paint (fourDigits index) ++ " | " ++ colouredText generator named ++ "\n" := by
  have ended : ")\n" = ")" ++ "\n" := by decide
  simp only [Generator.listProcedure, list_operands, colouredText, ended, String.append_assoc]
  rfl

theorem entry_coloured_line :
    generator.listEntry colouredLines =
      Colour.dim.paint "----" ++ " | " ++ colouredEntry generator ++ "\n" := by
  simp only [Generator.listEntry, colouredEntry, String.append_assoc]
  rfl

-- The lines of a listing, each with the mark it has where lines are numbered.
def rows : List (String × String) :=
  generator.procedures.toList.zipIdx.map (fun (named, index) => (fourDigits index, lineText generator named)) ++
    [("----", entryText generator)]

theorem join_rows (write : String × String → String) :
    String.join ((rows generator).map write) =
      String.join (generator.procedures.toList.zipIdx.map fun (named, index) =>
        write (fourDigits index, lineText generator named)) ++ write ("----", entryText generator) := by
  rw [rows, List.map_append, List.map_map, String.join_append]
  exact congrArg _ (String.join_cons.trans String.append_empty)

variable (lines : ∀ named ∈ generator.procedures.toList, Rust.IsName named.name ∧
    ∀ operand ∈ named.procedure.operands, Callable generator operand)
  (entry : Callable generator generator.entry)

include lines entry

theorem rows_shown : ∀ row ∈ rows generator, IsMark row.1 ∧ Shown row.2 := by
  intro row member
  rcases List.mem_append.mp member with made | last
  · obtain ⟨⟨named, index⟩, inside, rfl⟩ := List.mem_map.mp made
    obtain ⟨isName, callable⟩ := lines named (List.fst_mem_of_mem_zipIdx inside)
    exact ⟨four_digits_mark index, (painted_text generator named isName callable).shown⟩
  · have dashes : IsMark "----" := by decide
    rw [List.mem_singleton.mp last]
    exact ⟨dashes, (painted_entry generator entry).shown⟩

theorem disassembly_uncoloured :
    Uncolours (generator.disassembly true) (generator.disassembly false) := by
  have line : ∀ mark coloured plain, IsMark mark → Painted coloured plain →
      Uncolours (Colour.dim.paint mark ++ " | " ++ coloured ++ "\n") (mark ++ " | " ++ plain ++ "\n") := by
    intro mark coloured plain isMark painted
    have start := (painted_paint .dim mark (mark_shown mark isMark)).append (painted_same " | " (by decide))
    exact (start.append painted).uncolours.append uncolours_end
  change Uncolours (generator.list colouredLines) (generator.list numberedLines)
  simp only [Generator.list, List.mapIdx_eq_zipIdx_map, entry_coloured_line, entry_numbered_line,
    procedure_coloured_line, procedure_numbered_line]
  refine (uncolours_join _ _ _ ?_).append (line _ _ _ (by decide) (painted_entry generator entry))
  rintro ⟨named, index⟩ inside
  obtain ⟨isName, callable⟩ := lines named (List.fst_mem_of_mem_zipIdx inside)
  exact line _ _ _ (four_digits_mark index) (painted_text generator named isName callable)

theorem listing_split :
    linesOf generator.listing.toList =
      (rows generator).map (fun row => row.2.toList) ++ [[]] := by
  have spelled : generator.listing = String.join ((rows generator).map fun row => row.2 ++ "\n") := by
    simp only [join_rows, Generator.listing, Generator.list, List.mapIdx_eq_zipIdx_map,
      procedure_plain_line, entry_plain_line]
  rw [spelled]
  exact lines_joined Prod.snd _ fun row member => (rows_shown generator lines entry row member).2

theorem disassembly_split :
    linesOf (generator.disassembly false).toList =
      (rows generator).map (fun row => (row.1 ++ " | " ++ row.2).toList) ++ [[]] := by
  have spelled : generator.disassembly false =
      String.join ((rows generator).map fun row => row.1 ++ " | " ++ row.2 ++ "\n") := by
    change generator.list numberedLines = _
    simp only [join_rows, Generator.list, List.mapIdx_eq_zipIdx_map, procedure_numbered_line,
      entry_numbered_line]
  rw [spelled]
  refine lines_joined (fun row : String × String => row.1 ++ " | " ++ row.2) _ ?_
  intro row member
  obtain ⟨isMark, shown⟩ := rows_shown generator lines entry row member
  have bar : Shown " | " := by decide
  exact ((mark_shown _ isMark).append bar).append shown

theorem disassembly_unmarked :
    (linesOf (generator.disassembly false).toList).map unmarked = linesOf generator.listing.toList := by
  have each : (rows generator).map (fun row => unmarked (row.1 ++ " | " ++ row.2).toList) =
      (rows generator).map fun row => row.2.toList :=
    List.map_congr_left fun row member =>
      unmarked_mark row.1 row.2 (rows_shown generator lines entry row member).1
  have last : [[]].map unmarked = [[]] := rfl
  rw [disassembly_split generator lines entry, listing_split generator lines entry, List.map_append,
    List.map_map, last, Function.comp_def, each]

theorem disassembly_prefixed :
    linesOf (generator.disassembly false).toList =
      List.zipWith (· ++ ·) (linePrefixes generator.procedures.size) (linesOf generator.listing.toList) := by
  have prefixes : linePrefixes generator.procedures.size =
      (rows generator).map (fun row => (row.1 ++ " | ").toList) ++ [[]] := by
    have numbers : (List.range generator.procedures.size) = generator.procedures.toList.zipIdx.map Prod.snd := by
      rw [List.zipIdx_map_snd, Array.length_toList, List.range_eq_range']
    rw [linePrefixes, numbers, rows, List.map_append, List.map_map, List.map_map, List.append_assoc]
    rfl
  rw [disassembly_split generator lines entry, listing_split generator lines entry, prefixes,
    List.zipWith_append (by simp), List.zipWith_map, List.zipWith_self]
  simp

end

section

variable [Pattern.Engine]

-- Without its colours a disassembly is the one without colours, and without what stands in front of the
-- lines that one is the listing.
theorem disassembly_agrees (limit : Nat) (source : String) (grammar : Grammar) (generator : Generator)
    (read : Grammar.readWithin limit source = .ok grammar) (compiled : grammar.compile = .ok generator) :
    let plain := linesOf generator.listing.toList
    (linesOf (uncoloured (generator.disassembly true).toList)).map unmarked = plain ∧
      (linesOf (generator.disassembly false).toList).map unmarked = plain ∧
      linesOf (generator.disassembly false).toList =
        List.zipWith (· ++ ·) (linePrefixes generator.procedures.size) plain := by
  obtain ⟨rows, entry⟩ := compiled_lines limit source grammar generator read compiled
  have callable := earlier_callable generator fun named member => (rows named member).1
  have lines : ∀ named ∈ generator.procedures.toList, Rust.IsName named.name ∧
      ∀ operand ∈ named.procedure.operands, Callable generator operand := fun named member =>
    ⟨(rows named member).1, fun operand inside => callable operand ((rows named member).2 operand inside)⟩
  have plain : uncoloured (generator.disassembly true).toList = (generator.disassembly false).toList := by
    simpa [uncoloured] using disassembly_uncoloured generator lines (callable _ entry) []
  have unmarks := disassembly_unmarked generator lines (callable _ entry)
  refine ⟨?_, unmarks, disassembly_prefixed generator lines (callable _ entry)⟩
  rw [plain]
  exact unmarks

end

-- (?'<escape>[2m | <line end>')
def disguised : Grammar where
  opening := ⟨0, 1⟩
  statements := [.optional ⟨1, 1⟩ (.literal ⟨"\x1b[2m | \n", '\'', ⟨2, 10⟩⟩)]
  closing := ⟨12, 1⟩

theorem disassembly_agrees_disguised :
    let generator : Generator := ⟨#[⟨"_0", .optional (.constant "\x1b[2m | \n")⟩], .reference 0⟩
    Grammar.readWithin 3 "(?'\x1b[2m | \n')" = .ok disguised ∧ disguised.compile = .ok generator ∧
      (linesOf (uncoloured (generator.disassembly true).toList)).map unmarked =
        linesOf generator.listing.toList ∧
      (linesOf (generator.disassembly false).toList).map unmarked = linesOf generator.listing.toList ∧
      linesOf (generator.disassembly false).toList =
        List.zipWith (· ++ ·) ["0000 | ".toList, "---- | ".toList, []] (linesOf generator.listing.toList) := by
  intro generator
  have read : Grammar.readWithin 3 "(?'\x1b[2m | \n')" = .ok disguised := by rfl
  have compiled : disguised.compile = .ok generator := by rfl
  obtain ⟨coloured, bare, prefixed⟩ := disassembly_agrees 3 _ disguised generator read compiled
  exact ⟨read, compiled, coloured, bare, prefixed⟩

end TextGrammar
