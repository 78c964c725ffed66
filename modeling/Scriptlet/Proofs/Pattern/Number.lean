import Scriptlet.Highlight.Lexicon
import Scriptlet.Proofs.Pattern.Preferred
import Scriptlet.Proofs.Text.Digit

/-!
How numbers are written, and what the pattern for numbers takes of one that stands alone. As the pattern wants a word
edge on both sides, it takes no point at either end.
-/
namespace Scriptlet
open Text (Cursor)

def Lexicon.bases : List (List Char × String) :=
  [(['x', 'X'], "0123456789abcdefABCDEF"), (['b', 'B'], "01"), (['o', 'O'], "01234567")]

def IsDigits (digits : List Char) : Prop := ∀ c ∈ digits, Text.isDecimal c = true

instance (digits : List Char) : Decidable (IsDigits digits) :=
  List.decidableBAll _ digits

inductive IsExponent : List Char → Prop
  | none : IsExponent []
  | some {mark : Char} {sign digits : List Char} (marked : mark ∈ ['e', 'E'])
      (signed : sign = [] ∨ ∃ c ∈ ['+', '-'], sign = [c]) (present : digits ≠ []) (decimal : IsDigits digits) :
      IsExponent (mark :: (sign ++ digits))

/-- The forms of numbers: digits of a base that is named, or decimal digits with or without a point, behind which or
before which there may be none, and with an exponent or without one. -/
inductive IsNumberLiteral : List Char → Prop
  | based {marks : List Char} {allowed : String} {mark : Char} {digits : List Char}
      (base : (marks, allowed) ∈ Lexicon.bases) (marked : mark ∈ marks) (present : digits ≠ [])
      (digit : ∀ c ∈ digits, c ∈ allowed.toList) : IsNumberLiteral ('0' :: mark :: digits)
  | whole {digits exponent : List Char} (present : digits ≠ []) (decimal : IsDigits digits)
      (power : IsExponent exponent) : IsNumberLiteral (digits ++ exponent)
  | point {digits fraction exponent : List Char} (present : digits ≠ []) (decimal : IsDigits digits)
      (parts : IsDigits fraction) (power : IsExponent exponent) :
      IsNumberLiteral (digits ++ '.' :: (fraction ++ exponent))
  | fraction {digits exponent : List Char} (present : digits ≠ []) (decimal : IsDigits digits)
      (power : IsExponent exponent) : IsNumberLiteral ('.' :: (digits ++ exponent))

def bareStart (literal : List Char) : Nat := if literal.head? = some '.' then 1 else 0

def bareStop (literal : List Char) : Nat :=
  if literal.getLast? = some '.' then literal.length - 1 else literal.length

namespace Lexicon
open Pattern (one many optional oneOf text)

def decimal : Pattern := digits ++ optional (one (.exactly '.')) ++ many .digit ++ exponent

def forms : Pattern :=
  oneOf (digitsOf ['x', 'X'] "0123456789abcdefABCDEF")
    [digitsOf ['b', 'B'] "01", digitsOf ['o', 'O'] "01234567", decimal, text "." ++ digits ++ exponent]

theorem number_eq : number = .seq (.seq .wordEdge forms) .wordEdge := rfl

variable {literal digits fraction exponent taken rest marks : List Char} {allowed : String} {mark c : Char}
variable {before : Option Char} {offset : Nat}

/-- What can follow the digits of a number in base ten is no digit. -/
theorem isDecimal_eq_false (listed : c ∈ ['.', 'e', 'E']) : Text.isDecimal c = false := by
  simp only [List.mem_cons, List.not_mem_nil, or_false] at listed
  rcases listed with rfl | rfl | rfl <;> decide +kernel

theorem has_among_of_isDecimal {chars : List Char} (others : chars.all (!Text.isDecimal ·) = true)
    (decimal : Text.isDecimal c = true) : (CharClass.among chars).has c = false := by
  rw [CharClass.has, Bool.eq_false_iff, ne_eq, List.contains_iff_mem]
  intro listed
  have other := List.all_eq_true.mp others c listed
  rw [decimal] at other
  cases other

theorem isDecimal_of_mem_head? (present : digits ≠ []) (decimal : IsDigits digits) :
    ∀ c ∈ (digits ++ rest).head?, Text.isDecimal c = true := by
  obtain ⟨d, later, rfl⟩ := List.exists_cons_of_ne_nil present
  intro c first
  obtain rfl := Option.some.inj first
  exact decimal d List.mem_cons_self

theorem mem_head?_exponent (power : IsExponent exponent) :
    ∀ c ∈ exponent.head?, c ∈ ['e', 'E'] ∧ Text.isDecimal c = false := by
  cases power with
  | none => simp
  | some marked =>
    intro c first
    obtain rfl := Option.some.inj first
    exact ⟨marked, isDecimal_eq_false (List.mem_cons_of_mem '.' marked)⟩

theorem refuses_digitsOf (other : ∀ c ∈ rest.tail.head?, c ∉ marks) : (digitsOf marks allowed).Refuses rest := by
  intro offset before taken after takes
  change Pattern.Takes (.seq (.seq (.seq (one (.exactly '0')) .nothing) (one (.among marks))) _) _ _ _ at takes
  cases takes with | seq left right =>
  cases left with | seq zero marked =>
  cases zero with | seq zero nothing =>
  cases nothing
  cases zero with | one zero =>
  cases marked with | one marked =>
  rename_i more
  exact other _ rfl (by simpa [CharClass.has] using marked)

theorem refuses_digitsOf_of_digits (present : digits ≠ []) (decimal : IsDigits digits)
    (base : (marks, allowed) ∈ bases) (next : ∀ c ∈ rest.head?, c ∈ ['.', 'e', 'E']) :
    (digitsOf marks allowed).Refuses (digits ++ rest) := by
  have noMark : bases.all (·.1.all fun c => !Text.isDecimal c && c ∉ ['.', 'e', 'E']) = true := by decide +kernel
  apply refuses_digitsOf
  intro c second marked
  -- The second character is a digit too, or what follows the digits.
  have other := List.all_eq_true.mp (List.all_eq_true.mp noMark _ base) c marked
  obtain ⟨noDigit, noPoint⟩ : Text.isDecimal c = false ∧ c ∉ ['.', 'e', 'E'] := by simpa using other
  obtain ⟨d, later, rfl⟩ := List.exists_cons_of_ne_nil present
  rw [List.cons_append, List.tail_cons] at second
  cases later with
  | nil => exact noPoint (next c second)
  | cons e later =>
    obtain rfl := Option.some.inj second
    rw [decimal e (by simp)] at noDigit
    cases noDigit

/-- Where a text begins with a decimal digit, what the decimal form finds is found. -/
theorem matchThen_forms {next : Cursor → Option Cursor} {result : Cursor} (present : digits ≠ [])
    (decimal : IsDigits digits) (follows : ∀ c ∈ rest.head?, c ∈ ['.', 'e', 'E'])
    (found : Lexicon.decimal.matchThen next ⟨offset, before, digits ++ rest⟩ = some result) :
    forms.matchThen next ⟨offset, before, digits ++ rest⟩ = some result := by
  have refuses {marks : List Char} {allowed : String} (base : (marks, allowed) ∈ bases) :=
    (refuses_digitsOf_of_digits present decimal base follows).matchThen_eq_none next offset before
  change ((digitsOf ['x', 'X'] _).matchThen next _).or (((digitsOf ['b', 'B'] _).matchThen next _).or
    (((digitsOf ['o', 'O'] _).matchThen next _).or ((Lexicon.decimal.matchThen next _).or _))) = _
  rw [refuses (by simp [bases]), refuses (by simp [bases]), refuses (by simp [bases]), found]
  rfl

theorem prefers_exponent (power : IsExponent exponent)
    (ends : ∀ c ∈ rest.head?, Text.isDecimal c = false ∧ c ∉ ['e', 'E']) : Lexicon.exponent.Prefers exponent rest := by
  cases power with
  | none =>
    apply Pattern.Prefers.absent
    apply Pattern.refuses_of_first? (.among ['e', 'E']) rfl
    intro c next
    simpa [CharClass.has] using (ends c next).2
  | @some mark sign digits marked signed present decimal =>
    apply Pattern.Prefers.present
    have mark : (one (.among ['e', 'E'])).Prefers [mark] (sign ++ (digits ++ rest)) :=
      Pattern.prefers_one (by simpa [CharClass.has] using marked)
    have sign : (optional (one (.among ['+', '-']))).Prefers sign (digits ++ rest) := by
      rcases signed with rfl | ⟨c, listed, rfl⟩
      · apply Pattern.Prefers.absent
        apply Pattern.refuses_of_first? (.among ['+', '-']) rfl
        exact fun c next => has_among_of_isDecimal (by decide +kernel) (isDecimal_of_mem_head? present decimal c next)
      · exact Pattern.Prefers.present (Pattern.prefers_one (by simpa [CharClass.has] using listed))
    have run : Lexicon.digits.Prefers digits rest :=
      Pattern.prefers_run present decimal fun c next => (ends c next).1
    exact (mark.seq sign).seq run

variable (present : digits ≠ []) (isDigits : IsDigits digits) (power : IsExponent exponent)
include present isDigits power

private theorem prefers_forms (point : List Char) (parts : IsDigits fraction)
    (pointed : (optional (one (.exactly '.'))).Prefers point (fraction ++ exponent))
    (follows : ∀ c ∈ (point ++ (fraction ++ exponent)).head?, c ∈ ['.', 'e', 'E']) :
    forms.Prefers (digits ++ (point ++ (fraction ++ exponent))) [] := by
  have run : Lexicon.digits.Prefers digits (point ++ (fraction ++ exponent)) :=
    Pattern.prefers_run present isDigits fun c next => isDecimal_eq_false (follows c next)
  have more : (many .digit).Prefers fraction exponent :=
    Pattern.prefers_many parts fun c next => (mem_head?_exponent power c next).2
  have ends : Lexicon.exponent.Prefers exponent [] := prefers_exponent power (by simp)
  have all : Lexicon.decimal.Prefers (((digits ++ point) ++ fraction) ++ exponent) [] := by
    apply Pattern.Prefers.seq _ ends
    rw [List.append_nil exponent]
    exact (run.seq pointed).seq more
  intro next offset before result found
  simp only [List.append_assoc, List.append_nil] at all ⊢
  have matched := all next offset before result found
  rw [List.append_nil] at matched
  exact matchThen_forms present isDigits follows matched

theorem prefers_whole : forms.Prefers (digits ++ exponent) [] := by
  have first := mem_head?_exponent power
  apply prefers_forms present isDigits power [] (List.forall_mem_nil _)
  · apply Pattern.Prefers.absent
    apply Pattern.refuses_of_first? (.exactly '.') rfl
    intro c next
    have marked := (first c next).1
    simp only [List.mem_cons, List.not_mem_nil, or_false] at marked
    rcases marked with rfl | rfl <;> rfl
  · exact fun c next => List.mem_cons_of_mem '.' (first c next).1

theorem prefers_point (parts : IsDigits fraction) : forms.Prefers (digits ++ '.' :: (fraction ++ exponent)) [] := by
  apply prefers_forms present isDigits power ['.'] parts
  · exact Pattern.Prefers.present (Pattern.prefers_one rfl)
  · simp

omit present isDigits power

theorem prefers_based (base : (marks, allowed) ∈ bases) (marked : mark ∈ marks) (present : digits ≠ [])
    (digit : ∀ c ∈ digits, c ∈ allowed.toList) : forms.Prefers ('0' :: mark :: digits) [] := by
  have zero : (text "0").Prefers ['0'] (mark :: digits) := (Pattern.prefers_one rfl).seq Pattern.prefers_nothing
  have named : (one (.among marks)).Prefers [mark] digits := Pattern.prefers_one (by simpa [CharClass.has] using marked)
  have run : (Pattern.run (.among allowed.toList)).Prefers digits [] :=
    Pattern.prefers_run present (by simpa [CharClass.has] using digit) (by simp)
  have own : (digitsOf marks allowed).Prefers (['0', mark] ++ digits) [] := by
    apply Pattern.Prefers.seq _ run
    rw [List.append_nil]
    exact zero.seq named
  have refuses {others : List Char} {allowed : String} (other : mark ∉ others) :
      (digitsOf others allowed).Refuses ('0' :: mark :: digits ++ []) :=
    refuses_digitsOf (by simpa using other)
  simp only [bases, List.mem_cons, Prod.mk.injEq, List.not_mem_nil, or_false] at base
  rcases base with ⟨rfl, rfl⟩ | ⟨rfl, rfl⟩ | ⟨rfl, rfl⟩
  · exact own.left
  · have others : ∀ c ∈ ['b', 'B'], c ∉ ['x', 'X'] := by simp
    exact .right (refuses (others mark marked)) own.left
  · have others : ∀ c ∈ ['o', 'O'], c ∉ ['x', 'X'] ∧ c ∉ ['b', 'B'] := by simp
    exact .right (refuses (others mark marked).1) (.right (refuses (others mark marked).2) own.left)

private theorem matchEnd?_number {here after : Cursor} (starts : Pattern.atWordEdge here = true)
    (found : forms.matchThen (Pattern.wordEdge.matchThen some) here = some after) :
    number.matchEnd? here = some after := by
  rw [number_eq, Pattern.matchEnd?, Pattern.matchThen, Pattern.matchThen, Pattern.matchThen, if_pos starts, found]

/-- Behind the start of a text or a point a number takes all of the rest that it prefers to take. -/
theorem matchEnd?_of_prefers (lead : List Char) {core : List Char} (prefers : forms.Prefers core [])
    (led : lead = [] ∨ lead = ['.']) (first : core.head?.any Text.isWordChar = true)
    (last : core.getLast?.any Text.isWordChar = true) :
    number.matchEnd? (Text.place (lead ++ core) lead.length) =
      some (Text.place (lead ++ core) (lead.length + core.length)) := by
  obtain ⟨c, ends, word⟩ := (Option.any_eq_true _ _).mp last
  have starts : lead.getLast?.any Text.isWordChar = false := by
    rcases led with rfl | rfl
    · rfl
    · decide
  have found : number.matchEnd? ⟨lead.length, lead.getLast?, core⟩ = some ⟨lead.length + core.length, some c, []⟩ := by
    apply matchEnd?_number
    · rw [Pattern.atWordEdge, starts, first]
      rfl
    · have edge : Pattern.atWordEdge ⟨lead.length + core.length, some c, []⟩ = true := by
        rw [Pattern.atWordEdge, Option.any_some, word]
        rfl
      rw [← List.append_nil core]
      apply prefers
      rw [List.append_nil, ends, Option.some_or, Pattern.matchThen, if_pos edge]
  rw [← Text.place_append] at found
  rw [found, ← Pattern.place_of_matchEnd? found]

/-- A point at the end of a text is given back, as there is no word edge behind it. -/
theorem matchEnd?_of_point (present : digits ≠ []) (isDigits : IsDigits digits) :
    number.matchEnd? (Text.place (digits ++ ['.']) 0) = some (Text.place (digits ++ ['.']) digits.length) := by
  obtain ⟨c, last⟩ : ∃ c, digits.getLast? = some c := ⟨_, List.getLast?_eq_some_getLast present⟩
  have word : Text.isWordChar c = true := Text.isWordChar_of_isDecimal (isDigits c (List.mem_of_getLast? last))
  have follows : ∀ d ∈ ['.'].head?, Text.isDecimal d = false ∧ d ∉ ['e', 'E'] := by
    intro d first
    obtain rfl := Option.some.inj first
    exact ⟨isDecimal_eq_false List.mem_cons_self, by simp⟩
  have withPoint (n : Nat) : (many .digit).matchThen (Lexicon.exponent.matchThen (Pattern.wordEdge.matchThen some))
      ⟨n, some '.', []⟩ = none := rfl
  have without (n : Nat) : (many .digit).matchThen (Lexicon.exponent.matchThen (Pattern.wordEdge.matchThen some))
      ⟨n, some c, ['.']⟩ = some ⟨n, some c, ['.']⟩ := by
    have edge : Pattern.atWordEdge ⟨n, some c, ['.']⟩ = true := by
      rw [Pattern.atWordEdge, Option.any_some, word]
      rfl
    have stays : (many .digit).Prefers [] ['.'] := Pattern.prefers_many (by simp) fun d next => (follows d next).1
    apply stays
    apply prefers_exponent .none follows
    exact if_pos edge
  have found : number.matchEnd? ⟨0, none, digits ++ ['.']⟩ = some ⟨digits.length, some c, ['.']⟩ := by
    apply matchEnd?_number
    · obtain ⟨d, later, rfl⟩ := List.exists_cons_of_ne_nil present
      rw [Pattern.atWordEdge, List.cons_append, List.head?_cons, Option.any_some,
        Text.isWordChar_of_isDecimal (isDigits d List.mem_cons_self)]
      rfl
    · apply matchThen_forms present isDigits (by simp)
      have run : Lexicon.digits.Prefers digits ['.'] :=
        Pattern.prefers_run present isDigits fun d next => (follows d next).1
      apply run
      rw [last, Option.some_or, Nat.zero_add]
      have point : (CharClass.exactly '.').has '.' = true := rfl
      rw [Pattern.matchThen, without, Pattern.matchThen, if_pos point, withPoint, Option.none_or]
  have place := Pattern.place_of_matchEnd? (i := 0) found
  exact found.trans (congrArg some place.symm)

theorem any_head?_of_isDigits (present : digits ≠ []) (isDigits : IsDigits digits) :
    (digits ++ rest).head?.any Text.isWordChar = true := by
  obtain ⟨d, later, rfl⟩ := List.exists_cons_of_ne_nil present
  exact Text.isWordChar_of_isDecimal (isDigits d List.mem_cons_self)

theorem any_getLast?_of_isExponent (isDigits : IsDigits digits) (power : IsExponent exponent)
    (present : digits ++ exponent ≠ []) : (digits ++ exponent).getLast?.any Text.isWordChar = true := by
  have decimal {digits : List Char} (present : digits ≠ []) (isDigits : IsDigits digits) :
      digits.getLast?.any Text.isWordChar = true := by
    rw [List.getLast?_eq_some_getLast present, Option.any_some]
    exact Text.isWordChar_of_isDecimal (isDigits _ (List.getLast_mem present))
  cases power with
  | none =>
    rw [List.append_nil] at present ⊢
    exact decimal present isDigits
  | @some mark sign power _ _ some isDigits =>
    rw [← List.cons_append, ← List.append_assoc, List.getLast?_append_of_ne_nil _ some]
    exact decimal some isDigits

private theorem bareStart_eq_zero (first : literal.head?.any Text.isWordChar = true) : bareStart literal = 0 := by
  apply if_neg
  intro point
  rw [point] at first
  cases first

private theorem bareStop_eq_length (last : literal.getLast?.any Text.isWordChar = true) :
    bareStop literal = literal.length := by
  apply if_neg
  intro point
  rw [point] at last
  cases last

/-- Of a number that stands alone, all is taken but a point at its front or at its end. -/
theorem matchEnd?_of_isNumberLiteral (isLiteral : IsNumberLiteral literal) :
    number.matchEnd? (Text.place literal (bareStart literal)) = some (Text.place literal (bareStop literal)) := by
  have alone (prefers : forms.Prefers literal []) (first : literal.head?.any Text.isWordChar = true)
      (last : literal.getLast?.any Text.isWordChar = true) :
      number.matchEnd? (Text.place literal (bareStart literal)) = some (Text.place literal (bareStop literal)) := by
    have taken := matchEnd?_of_prefers [] prefers (.inl rfl) first last
    rwa [List.nil_append, List.length_nil, Nat.zero_add, ← bareStart_eq_zero first, ← bareStop_eq_length last] at taken
  cases isLiteral with
  | based base marked present digit =>
    apply alone (prefers_based base marked present digit) rfl
    have words : bases.all (·.2.toList.all Text.isWordChar) = true := by decide +kernel
    change (['0', _] ++ _).getLast?.any Text.isWordChar = true
    rw [List.getLast?_append_of_ne_nil _ present, List.getLast?_eq_some_getLast present, Option.any_some]
    exact List.all_eq_true.mp (List.all_eq_true.mp words _ base) _ (digit _ (List.getLast_mem present))
  | @whole digits exponent present isDigits power =>
    apply alone (prefers_whole present isDigits power) (any_head?_of_isDigits present isDigits)
    exact any_getLast?_of_isExponent isDigits power (by simp [present])
  | @point digits fraction exponent present isDigits parts power =>
    by_cases ends : fraction ++ exponent = []
    · have stop : bareStop (digits ++ ['.']) = digits.length := by simp [bareStop]
      rw [ends, bareStart_eq_zero (any_head?_of_isDigits present isDigits), stop]
      exact matchEnd?_of_point present isDigits
    · apply alone (prefers_point present isDigits power parts) (any_head?_of_isDigits present isDigits)
      rw [List.append_cons, List.getLast?_append_of_ne_nil _ ends]
      exact any_getLast?_of_isExponent parts power ends
  | @fraction digits exponent present isDigits power =>
    have last := any_getLast?_of_isExponent isDigits power (by simp [present])
    have taken := matchEnd?_of_prefers ['.'] (prefers_whole present isDigits power) (.inr rfl)
      (any_head?_of_isDigits present isDigits) last
    have stop : bareStop ('.' :: (digits ++ exponent)) = 1 + (digits ++ exponent).length := by
      rw [bareStop_eq_length, List.length_cons, Nat.add_comm]
      rwa [← List.singleton_append, List.getLast?_append_of_ne_nil _ (by simp [present])]
    rw [stop]
    exact taken

end Lexicon
end Scriptlet
