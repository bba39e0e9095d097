/-
**The texts of system errors.**

What is told of a system error ends in its number between brackets. The text before that begins with a
capital letter or a dot, has no bracket that closes, no quotation mark and no end of a line in it, and has
a colon only where it goes on in one way. The table of errors is looked through once for this.

* `bytewise_eq`: a text of one-byte characters can be read off its bytes;
* `Words`: what stands before the last bracket;
* `words_errnoText`: the texts of the table, and of a number that is not in it;
* `numbered_text`: the text of a system error.
-/

import CalcBuild.Fault.Cause
import CalcBuild.Proofs.Number.Numerals

namespace CalcBuild

/-! ### Texts of one-byte characters -/

/-- All characters of a text are one byte long. -/
def isSmall (text : String) : Bool := text.toByteArray.data.toList.all (· < 128)

/-- The characters of such a text, read off its bytes: long tables are looked through in this way, as it
takes less time than decoding them. -/
def bytewise (text : String) : List Char :=
  text.toByteArray.data.toList.map fun byte => Char.ofNat byte.toNat

/-- A byte that is less than 128 is a character on its own. -/
theorem encodeChar_small {c : Char} (small : ∀ byte ∈ String.utf8EncodeChar c, byte < 128) :
    (String.utf8EncodeChar c).map (fun byte => Char.ofNat byte.toNat) = [c] := by
  have first (number : Nat) (less : UInt8.ofNat number < 128) : number % 256 < 128 := by
    rw [UInt8.lt_iff_toNat_lt, UInt8.toNat_ofNat'] at less
    exact less
  unfold String.utf8EncodeChar at small ⊢
  dsimp only at small ⊢
  by_cases one : c.val.toNat ≤ 127
  · have fits : (UInt8.ofNat c.val.toNat).toNat = c.toNat := by
      rw [UInt8.toNat_ofNat']
      exact Nat.mod_eq_of_lt (by omega)
    rw [if_pos one, List.map_singleton, fits, Char.ofNat_toNat]
  · rw [if_neg one] at small
    exfalso
    split at small
    · have := first _ (small _ List.mem_cons_self)
      omega
    · split at small
      all_goals
        have := first _ (small _ List.mem_cons_self)
        omega

theorem bytewise_eq {text : String} (small : isSmall text = true) : bytewise text = text.toList := by
  have bytes : text.toByteArray.data.toList = text.toList.flatMap String.utf8EncodeChar := by
    conv_lhs => rw [← @String.ofList_toList text, String.toByteArray_ofList, List.utf8Encode,
      List.data_toByteArray]
  unfold isSmall at small
  unfold bytewise
  rw [bytes, List.all_eq_true] at small
  rw [bytes]
  generalize text.toList = chars at small ⊢
  induction chars with
  | nil => rfl
  | cons c chars ih =>
    rw [List.flatMap_cons] at small ⊢
    rw [List.forall_mem_append] at small
    rw [List.map_append, ih small.2,
      encodeChar_small fun byte member => of_decide_eq_true (small.1 byte member)]
    rfl

/-! ### The texts of system errors -/

/-- A character that texts of system errors begin with, and that the words of messages do not have. -/
def isInitial (c : Char) : Bool := c.isUpper || c == '.'

/-- A character that a text of a system error has only at its end, and one that it does not have. -/
def isBarred (c : Char) : Bool := c == ')' || c == '"' || c == '\n'

/-- After every colon the text goes on with a space and a `c`, as in `Too many references: cannot splice`.
-/
def Colons (text : List Char) : Prop := ∀ rest, ':' :: rest <:+ text → [' ', 'c'] <+: rest

/-- What stands before the last bracket in the text of a system error. -/
structure Words (body : List Char) : Prop where
  begins : body.head?.any isInitial = true
  plain : ∀ c ∈ body, isBarred c = false
  colons : Colons body

theorem Colons.append {text more : List Char} (colons : Colons text) (without : ':' ∉ more) :
    Colons (text ++ more) := by
  rintro rest ⟨front, split⟩
  rcases List.append_eq_append_iff.mp split with ⟨between, rfl, within⟩ | ⟨between, rfl, within⟩
  · cases between with
    | nil =>
      rw [List.nil_append] at within
      exact absurd (within ▸ List.mem_cons_self) without
    | cons c between =>
      obtain ⟨rfl, rfl⟩ := List.cons.inj within
      exact (colons between ⟨front, rfl⟩).trans (List.prefix_append _ _)
  · exact absurd (within ▸ List.mem_append_right _ List.mem_cons_self) without

theorem Words.append {body more : List Char} (words : Words body)
    (plain : ∀ c ∈ more, isBarred c = false ∧ c ≠ ':') : Words (body ++ more) where
  begins := by
    have begins := words.begins
    cases body with
    | nil => cases begins
    | cons c body => exact begins
  plain := List.forall_mem_append.mpr ⟨words.plain, fun c member => (plain c member).1⟩
  colons := words.colons.append fun member => (plain _ member).2 rfl

/-- Texts that are given can be looked through. -/
def looksThrough (text : List Char) : Bool :=
  text.head?.any isInitial && text.all (fun c => !isBarred c) &&
    text.tails.all fun rest => rest.head? != some ':' || [' ', 'c'].isPrefixOf rest.tail

theorem words_of_looksThrough {text : List Char} (checked : looksThrough text = true) :
    Words text := by
  simp only [looksThrough, Bool.and_eq_true, List.all_eq_true, Bool.not_eq_true'] at checked
  refine ⟨checked.1.1, checked.1.2, fun rest ends => ?_⟩
  have goes_on := checked.2 (':' :: rest) ((List.mem_tails _ _).mpr ends)
  exact List.isPrefixOf_iff_prefix.mp goes_on

/-- The numeral of an integer is a text of digits, perhaps after a sign. -/
theorem mem_signed {value : Int} {c : Char} (member : c ∈ (Number.signed value).toList) :
    c = '-' ∨ c.isDigit = true := by
  have digits (value : Nat) : c ∈ (Number.numeral value).toList → c.isDigit = true := by
    unfold Number.numeral
    rw [String.toList_ofList]
    exact (Number.isNumeral_digits value).digits c
  unfold Number.signed at member
  split at member
  · rw [String.toList_append] at member
    rcases List.mem_append.mp member with sign | number
    · exact .inl (List.mem_singleton.mp sign)
    · exact .inr (digits _ number)
  · exact .inr (digits _ member)

theorem plain_signed {value : Int} {c : Char} (member : c ∈ (Number.signed value).toList) :
    isBarred c = false ∧ c ≠ ':' := by
  rcases mem_signed member with rfl | digit
  · decide
  · simp only [isBarred, Bool.or_eq_false_iff, beq_eq_false_iff_ne]
    refine ⟨⟨⟨?_, ?_⟩, ?_⟩, ?_⟩ <;>
    · rintro rfl
      exact absurd digit (by decide)

theorem words_errnoText (errno : Int) : Words (errnoText errno).toList := by
  have rows : errnoTable.all (fun row => isSmall row.text && looksThrough (bytewise row.text)) = true := by
    decide +kernel
  unfold errnoText
  cases found : errnoRow? errno with
  | some row =>
    have checked := List.all_eq_true.mp rows row (List.mem_of_find?_eq_some found)
    rw [Bool.and_eq_true] at checked
    rw [← bytewise_eq checked.1]
    exact words_of_looksThrough checked.2
  | none =>
    dsimp only
    split
    · exact words_of_looksThrough (by decide +kernel)
    · rw [String.toList_append]
      exact (words_of_looksThrough (by decide +kernel)).append fun c member => plain_signed member

/-- **The text of a system error** consists of such words and a bracket. -/
theorem numbered_text (errno : Int) : ∃ body, Words body ∧
    (Cause.numbered errno).text.toList = body ++ [')'] := by
  have opening : " (os error ".toList.all (fun c => !isBarred c && c != ':') = true := by decide +kernel
  refine ⟨(errnoText errno).toList ++ (" (os error ".toList ++ (Number.signed errno).toList),
    (words_errnoText errno).append (List.forall_mem_append.mpr
      ⟨fun c member => ?_, fun c member => plain_signed member⟩), ?_⟩
  · simpa using List.all_eq_true.mp opening c member
  · simp only [Cause.text, String.toList_append, List.append_assoc]
    rfl

end CalcBuild
