import TextGrammar.Proofs.Tiling
import TextGrammar.Proofs.Utf8Decoding

set_option autoImplicit false

namespace TextGrammar

def Ascii (c : Char) : Prop := c.toNat < 128

instance (c : Char) : Decidable (Ascii c) := inferInstanceAs (Decidable (c.toNat < 128))

def byteChars (c : Char) : List Char :=
  (String.utf8EncodeChar c).map fun byte => Char.ofNat byte.toNat

def bytewise (text : List Char) : List Char := text.flatMap byteChars

theorem byte_chars_ascii (c : Char) (ascii : Ascii c) : byteChars c = [c] := by
  have small : c.val.toNat ≤ 127 := Nat.le_of_lt_succ ascii
  have byte : (UInt8.ofNat c.val.toNat).toNat = c.val.toNat :=
    UInt8.toNat_ofNat_of_lt' (Nat.lt_of_le_of_lt small (by decide))
  have same : Char.ofNat c.val.toNat = c := Char.ofNat_toNat c
  simp only [byteChars, String.utf8EncodeChar, if_pos small, List.map_cons, List.map_nil, byte, same]

theorem byte_chars_foreign (c : Char) (foreign : ¬ Ascii c) : ∀ d ∈ byteChars c, ¬ Ascii d := by
  have large : ¬ c.val.toNat ≤ 127 := fun small => foreign (Nat.lt_succ_of_le small)
  have high : ∀ bits lead : Nat, 128 ≤ lead → bits + lead < 256 →
      ¬ Ascii (Char.ofNat (UInt8.ofNat (bits + lead)).toNat) := by
    intro bits lead least most
    have valid : (bits + lead).isValidChar := .inl (by omega)
    rw [UInt8.toNat_ofNat_of_lt' most, Ascii, Char.ofNat, dif_pos valid]
    change ¬ bits + lead < 128
    omega
  simp only [byteChars, String.utf8EncodeChar, if_neg large]
  split
  · simp only [List.map_cons, List.map_nil, List.forall_mem_cons, List.not_mem_nil]
    exact ⟨high _ _ (by decide) (by omega), high _ _ (by decide) (by omega), nofun⟩
  split
  · simp only [List.map_cons, List.map_nil, List.forall_mem_cons, List.not_mem_nil]
    exact ⟨high _ _ (by decide) (by omega), high _ _ (by decide) (by omega),
      high _ _ (by decide) (by omega), nofun⟩
  · simp only [List.map_cons, List.map_nil, List.forall_mem_cons, List.not_mem_nil]
    exact ⟨high _ _ (by decide) (by omega), high _ _ (by decide) (by omega),
      high _ _ (by decide) (by omega), high _ _ (by decide) (by omega), nofun⟩

theorem byte_chars_length (c : Char) : (byteChars c).length = c.utf8Size := by
  rw [byteChars, List.length_map, String.length_utf8EncodeChar]

theorem byte_chars_cons (c : Char) : ∃ first others, byteChars c = first :: others := by
  refine List.exists_cons_of_length_pos ?_
  rw [byte_chars_length]
  exact c.utf8Size_pos

theorem bytewise_append (a b : List Char) : bytewise (a ++ b) = bytewise a ++ bytewise b :=
  List.flatMap_append

theorem bytewise_cons (c : Char) (text : List Char) :
    bytewise (c :: text) = byteChars c ++ bytewise text := List.flatMap_cons

theorem bytewise_length (text : List Char) : (bytewise text).length = utf8Length text := by
  induction text with
  | nil => rfl
  | cons c text ih =>
      rw [bytewise_cons, List.length_append, byte_chars_length, ih, utf8_length_cons]

theorem bytewise_ascii (text : List Char) (ascii : ∀ c ∈ text, Ascii c) : bytewise text = text := by
  induction text with
  | nil => rfl
  | cons c text ih =>
      obtain ⟨first, others⟩ := List.forall_mem_cons.mp ascii
      rw [bytewise_cons, byte_chars_ascii c first, ih others, List.singleton_append]

theorem bytewise_nil (text : List Char) : bytewise text = [] ↔ text = [] := by
  constructor
  · intro empty
    cases text with
    | nil => rfl
    | cons c text =>
        obtain ⟨first, others, shape⟩ := byte_chars_cons c
        simp [bytewise_cons, shape] at empty
  · rintro rfl
    rfl

-- An ASCII character comes from itself only, so it cuts the text where it cuts the bytes.
theorem bytewise_split (text before after : List Char) (c : Char) (ascii : Ascii c)
    (shape : bytewise text = before ++ c :: after) :
    ∃ front rest, text = front ++ c :: rest ∧ bytewise front = before ∧ bytewise rest = after := by
  induction text generalizing before with
  | nil => simp [bytewise] at shape
  | cons d text ih =>
      rw [bytewise_cons] at shape
      obtain ⟨tail, chars⟩ | ⟨inner, rfl, behind⟩ := append_character _ _ _ _ _ shape
      · have own : Ascii d := by
          by_contra foreign
          exact byte_chars_foreign d foreign c (by simp [chars]) ascii
        rw [byte_chars_ascii d own] at chars shape
        cases before with
        | nil =>
            obtain ⟨rfl, -⟩ := List.cons.inj chars
            exact ⟨[], text, rfl, rfl, by simpa using shape⟩
        | cons e before => simp at chars
      · obtain ⟨front, rest, rfl, rfl, rfl⟩ := ih inner behind
        exact ⟨d :: front, rest, rfl, bytewise_cons d front, rfl⟩

theorem bytewise_last (text : List Char) (c : Char) (ascii : Ascii c) :
    (bytewise text).getLast? = some c ↔ text.getLast? = some c := by
  simp only [List.getLast?_eq_some_iff]
  constructor
  · rintro ⟨before, shape⟩
    obtain ⟨front, rest, rfl, -, ended⟩ := bytewise_split text before [] c ascii shape
    obtain rfl := (bytewise_nil rest).mp ended
    exact ⟨front, rfl⟩
  · rintro ⟨front, rfl⟩
    refine ⟨bytewise front, ?_⟩
    rw [bytewise_append, bytewise_ascii [c] (by simpa using ascii)]

theorem all_ascii (text : List Char) (all : text.all (fun c => decide (Ascii c)) = true) :
    ∀ c ∈ text, Ascii c := by
  simpa using all

theorem blank_ascii (c : Char) (blank : isBlank c = true) : Ascii c := by
  have member : c ∈ blanks := by simpa [isBlank] using blank
  exact all_ascii blanks (by decide) c member

theorem quote_ascii (c : Char) (delimits : isQuote c = true) : Ascii c := by
  have member : c ∈ quotes := by simpa [isQuote] using delimits
  exact all_ascii quotes (by decide) c member

theorem below_ascii (c bound : Char) (below : c ≤ bound) (ascii : Ascii bound) : Ascii c :=
  Nat.lt_of_le_of_lt (UInt32.le_iff_toNat_le.mp below) ascii

theorem name_ascii (c : Char) (named : isNameChar c = true) : Ascii c := by
  simp only [isNameChar, Bool.or_eq_true, Bool.and_eq_true, decide_eq_true_eq] at named
  obtain (⟨-, digit⟩ | ⟨-, capital⟩) | ⟨-, small⟩ := named
  · exact below_ascii c '9' digit (by decide)
  · exact below_ascii c 'Z' capital (by decide)
  · exact below_ascii c 'z' small (by decide)

theorem mark_ascii (c : Char) (mark : isAsciiMark c = true) : Ascii c := by
  simp only [isAsciiMark, Bool.and_eq_true, decide_eq_true_eq] at mark
  exact below_ascii c '~' mark.1.2 (by decide)

theorem symbol_ascii (operator : Operator) : ∀ c ∈ operator.symbol.toList, Ascii c := by
  cases operator <;> exact all_ascii _ (by decide)

theorem bytewise_blank (text : List Char) (blank : Blank text) : bytewise text = text :=
  bytewise_ascii text fun c member => blank_ascii c (blank c member)

theorem foreign_unmarked (c : Char) (foreign : ¬ Ascii c) : isAsciiMark c = false :=
  eq_false_of_ne_true fun mark => foreign (mark_ascii c mark)

theorem foreign_stray (c : Char) (foreign : ¬ Ascii c) : Stray c := by
  refine ⟨?_, ?_, ?_, ?_, ?_, ?_⟩
  · exact eq_false_of_ne_true fun blank => foreign (blank_ascii c blank)
  · rintro rfl
    exact foreign (by decide)
  · rintro rfl
    exact foreign (by decide)
  · exact eq_false_of_ne_true fun delimits => foreign (quote_ascii c delimits)
  · exact eq_false_of_ne_true fun named => foreign (name_ascii c named)
  · intro operator symbol
    exact foreign (symbol_ascii operator c (by rw [symbol]; exact .head _))

theorem bytewise_apart (next : List Char) (apart : Apart next) : Apart (bytewise next) := by
  cases next with
  | nil => exact apart
  | cons c next =>
      obtain ⟨first, others, shape⟩ := byte_chars_cons c
      rw [bytewise_cons, shape, Apart, List.cons_append, List.head?_cons]
      intro d same
      obtain rfl : first = d := by simpa using same
      by_cases ascii : Ascii c
      · rw [byte_chars_ascii c ascii] at shape
        obtain ⟨rfl, -⟩ := List.cons.inj shape
        exact apart c rfl
      · exact (foreign_stray first (byte_chars_foreign c ascii first (by simp [shape]))).2.2.2.2.1

theorem bytewise_escaped (quote : Char) (body : List Char) (ascii : Ascii quote)
    (escaped : Escaped quote body) : Escaped quote (bytewise body) := by
  intro before after shape
  obtain ⟨front, rest, rfl, rfl, rfl⟩ := bytewise_split body before after quote ascii shape
  exact (bytewise_last front escapeMark (by decide)).mpr (escaped front rest rfl)

theorem bytewise_quotable (quote : Char) (body : List Char) (ascii : Ascii quote)
    (quotable : Quotable quote body) : Quotable quote (bytewise body) :=
  ⟨bytewise_escaped quote body ascii quotable.1,
    fun marked => quotable.2 ((bytewise_last body escapeMark (by decide)).mp marked)⟩

def bytewiseText (text : String) : String := String.ofList (bytewise text.toList)

end TextGrammar
