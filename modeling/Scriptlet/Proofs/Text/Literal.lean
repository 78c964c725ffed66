import Scriptlet.Text.Quoted

/-!
Quoted text that is read again. Behind a backslash stands a letter for a character, or one that says how many
hexadecimal digits of its number follow. Every text comes back from its literal, which has printable characters only
and so no line ends and no tabs.
-/
namespace Scriptlet.Text.Quoted

def meanings : List (Char × Char) :=
  [('\\', '\\'), ('\'', '\''), ('"', '"'), ('n', '\n'), ('r', '\r'), ('t', '\t')]

def digitCounts : List (Char × Nat) := [('x', 2), ('u', 4), ('U', 8)]

def digitValue? (c : Char) : Option Nat := "0123456789abcdef".toList.idxOf? c.toLower

def numberFrom? (read : Nat) (digits : List Char) : Option Nat :=
  digits.foldlM (fun n c => (digitValue? c).map (16 * n + ·)) read

def charOf? (n : Nat) : Option Char := if n.isValidChar then some (Char.ofNat n) else none

/-- What is read inside a literal: characters, what stands behind a backslash, or digits of which some more are to
follow after others that are read already. -/
inductive Mode where
  | plain
  | escape
  | digits (more read : Nat)

/-- Reads to the closing quote, behind which nothing may follow. -/
def readText? (quote : Char) : Mode → List Char → Option (List Char)
  | _, [] => none
  | .plain, c :: rest =>
    if c = quote then if rest.isEmpty then some [] else none
    else if c = '\\' then readText? quote .escape rest
    else (readText? quote .plain rest).map (c :: ·)
  | .escape, c :: rest =>
    match digitCounts.lookup c with
    | some count => readText? quote (.digits count 0) rest
    | none => (meanings.lookup c).bind fun meant => (readText? quote .plain rest).map (meant :: ·)
  | .digits more read, c :: rest =>
    (digitValue? c).bind fun digit =>
      if more = 1 then (charOf? (16 * read + digit)).bind fun meant => (readText? quote .plain rest).map (meant :: ·)
      else readText? quote (.digits (more - 1) (16 * read + digit)) rest

def decode? : List Char → Option (List Char)
  | [] => none
  | quote :: rest => if quote = '\'' ∨ quote = '"' then readText? quote .plain rest else none

variable {quote c : Char} {n width read : Nat} {text rest digits : List Char}

theorem readText?_digits (quote : Char) (rest : List Char) (some : digits ≠ []) (reads : numberFrom? read digits = .some n) :
    readText? quote (.digits digits.length read) (digits ++ rest) =
      (charOf? n).bind fun meant => (readText? quote .plain rest).map (meant :: ·) := by
  induction digits generalizing read with
  | nil => exact absurd rfl some
  | cons c digits ih =>
    obtain ⟨_, one, later⟩ := Option.bind_eq_some_iff.mp (List.foldlM_cons.symm.trans reads)
    obtain ⟨digit, value, rfl⟩ := Option.map_eq_some_iff.mp one
    rw [List.cons_append, readText?, value, Option.bind_some]
    cases digits with
    | nil =>
      obtain rfl := Option.some.inj later
      rfl
    | cons d digits =>
      rw [if_neg (by simp)]
      exact ih (List.cons_ne_nil d digits) later

private theorem digitValue?_digitChar : ∀ n < 16, digitValue? (Nat.digitChar n) = some n := by decide

private theorem numberFrom?_toDigits (n : Nat) : numberFrom? 0 (Nat.toDigits 16 n) = some n := by
  induction n using Nat.strongRecOn with
  | ind n ih =>
  rw [Nat.toDigits_eq_if (by decide)]
  split
  next small =>
    rw [numberFrom?, List.foldlM_cons, digitValue?_digitChar n small]
    simp
  next large =>
    have last := digitValue?_digitChar (n % 16) (Nat.mod_lt n (by decide))
    have fewer := ih (n / 16) (by omega)
    rw [numberFrom?] at fewer ⊢
    rw [List.foldlM_append, fewer]
    simp [last, Nat.div_add_mod]

private theorem numberFrom?_zeros (count : Nat) : numberFrom? 0 (List.replicate count '0') = some 0 := by
  induction count with
  | zero => rfl
  | succ count ih => exact ih

theorem numberFrom?_hexDigits (width n : Nat) : numberFrom? 0 (hexDigits width n) = some n := by
  have zeros := numberFrom?_zeros (width - (Nat.toDigits 16 n).length)
  have written := numberFrom?_toDigits n
  rw [numberFrom?] at zeros written ⊢
  rw [hexDigits, List.foldlM_append, zeros]
  exact written

theorem length_hexDigits (some : 0 < width) (fits : n < Nat.pow 16 width) : (hexDigits width n).length = width := by
  have short := (Nat.length_toDigits_le_iff (by decide) some).mpr fits
  rw [hexDigits, List.length_append, List.length_replicate]
  omega

private theorem isPrintable_digitChar : ∀ n < 16, isPrintable (Nat.digitChar n) = true := by decide

private theorem isPrintable_of_mem_toDigits (member : c ∈ Nat.toDigits 16 n) : isPrintable c = true := by
  induction n using Nat.strongRecOn with
  | ind n ih =>
  rw [Nat.toDigits_eq_if (by decide)] at member
  split at member
  next small => exact List.mem_singleton.mp member ▸ isPrintable_digitChar n small
  next large =>
    rcases List.mem_append.mp member with earlier | last
    · exact ih (n / 16) (by omega) earlier
    · exact List.mem_singleton.mp last ▸ isPrintable_digitChar (n % 16) (Nat.mod_lt n (by decide))

theorem isPrintable_of_mem_hexDigits (member : c ∈ hexDigits width n) : isPrintable c = true := by
  rcases List.mem_append.mp member with zero | digit
  · exact List.eq_of_mem_replicate zero ▸ rfl
  · exact isPrintable_of_mem_toDigits digit

theorem charOf?_toNat (c : Char) : charOf? c.toNat = some c := by
  rw [charOf?, if_pos (show c.toNat.isValidChar from c.valid), Char.ofNat_toNat]

inductive Written (quote c : Char) : List Char → Prop
  | itself (noQuote : c ≠ quote) (noBackslash : c ≠ '\\') (printable : isPrintable c = true) : Written quote c [c]
  | meaning {letter : Char} (listed : (letter, c) ∈ meanings) : Written quote c ['\\', letter]
  | number {letter : Char} {width : Nat} (listed : (letter, width) ∈ digitCounts) (fits : c.toNat < Nat.pow 16 width) :
      Written quote c ('\\' :: letter :: hexDigits width c.toNat)

theorem written_escapeChar (isQuote : quote = '\'' ∨ quote = '"') (c : Char) : Written quote c (escapeChar quote c) := by
  rw [escapeChar]
  by_cases marked : c = quote ∨ c = '\\'
  · rw [if_pos (by simpa using marked)]
    have listed : (c, c) ∈ meanings := by
      rcases marked with rfl | rfl
      · rcases isQuote with rfl | rfl <;> decide
      · decide
    exact .meaning listed
  rw [if_neg (by simpa using marked)]
  rw [not_or] at marked
  split
  next newline => exact newline ▸ .meaning (by decide)
  next =>
    split
    next ret => exact ret ▸ .meaning (by decide)
    next =>
      split
      next tab => exact tab ▸ .meaning (by decide)
      next =>
        split
        next printable => exact .itself marked.1 marked.2 printable
        next =>
          split
          next small => exact .number (by decide) small
          next =>
            split
            next small => exact .number (by decide) small
            next => exact .number (by decide) c.val.toNat_lt

private theorem readText?_backslash (isQuote : quote = '\'' ∨ quote = '"') :
    readText? quote .plain ('\\' :: rest) = readText? quote .escape rest := by
  have other : ¬ '\\' = quote := by rintro rfl; simp at isQuote
  rw [readText?, if_neg other, if_pos rfl]

theorem readText?_escapeChar (isQuote : quote = '\'' ∨ quote = '"') (c : Char) (rest : List Char) :
    readText? quote .plain (escapeChar quote c ++ rest) = (readText? quote .plain rest).map (c :: ·) := by
  have written := written_escapeChar isQuote c
  generalize escapeChar quote c = chars at written
  cases written with
  | itself noQuote noBackslash => rw [List.singleton_append, readText?, if_neg noQuote, if_neg noBackslash]
  | @meaning letter listed =>
    have known : ∀ entry ∈ meanings, digitCounts.lookup entry.1 = none ∧ meanings.lookup entry.1 = some entry.2 := by
      decide
    obtain ⟨noCount, meant⟩ := known _ listed
    rw [List.cons_append, List.singleton_append, readText?_backslash isQuote, readText?, noCount, meant]
    rfl
  | @number letter width listed fits =>
    have known : ∀ entry ∈ digitCounts, digitCounts.lookup entry.1 = some entry.2 ∧ 0 < entry.2 := by decide
    obtain ⟨count, positive⟩ := known _ listed
    have length := length_hexDigits positive fits
    have reads := readText?_digits quote rest (List.ne_nil_of_length_pos (length.symm ▸ positive))
      (numberFrom?_hexDigits width c.toNat)
    rw [length, charOf?_toNat] at reads
    rw [List.cons_append, List.cons_append, readText?_backslash isQuote, readText?, count]
    exact reads

theorem isPrintable_of_mem_escapeChar {d : Char} (isQuote : quote = '\'' ∨ quote = '"') (member : d ∈ escapeChar quote c) :
    isPrintable d = true := by
  have written := written_escapeChar isQuote c
  have backslash : isPrintable '\\' = true := by decide
  generalize escapeChar quote c = chars at written member
  cases written with
  | itself _ _ printable => exact List.mem_singleton.mp member ▸ printable
  | @meaning letter listed =>
    have letters : ∀ entry ∈ meanings, isPrintable entry.1 = true := by decide
    rcases List.mem_cons.mp member with rfl | rest
    · exact backslash
    · exact List.mem_singleton.mp rest ▸ letters _ listed
  | @number letter width listed =>
    have letters : ∀ entry ∈ digitCounts, isPrintable entry.1 = true := by decide
    rcases List.mem_cons.mp member with rfl | rest
    · exact backslash
    rcases List.mem_cons.mp rest with rfl | digit
    · exact letters _ listed
    · exact isPrintable_of_mem_hexDigits digit

theorem quoteFor_cases (text : List Char) : quoteFor text = '\'' ∨ quoteFor text = '"' := by
  rw [quoteFor]
  split <;> simp

theorem decode?_encode (text : List Char) : decode? (encode text) = some text := by
  have isQuote := quoteFor_cases text
  have reads (rest : List Char) : readText? (quoteFor text) .plain (rest.flatMap (escapeChar (quoteFor text)) ++
      [quoteFor text]) = some rest := by
    induction rest with
    | nil =>
      rw [List.flatMap_nil, List.nil_append, readText?, if_pos rfl]
      rfl
    | cons c rest ih =>
      rw [List.flatMap_cons, List.append_assoc, readText?_escapeChar isQuote, ih]
      rfl
  rw [encode, List.cons_append, decode?, if_pos isQuote, reads]

/-- A literal stays on its line and between the tabs beside it. -/
theorem isPrintable_of_mem_encode (member : c ∈ encode text) : isPrintable c = true := by
  have isQuote := quoteFor_cases text
  have quote : isPrintable (quoteFor text) = true := by
    rcases isQuote with quote | quote <;> rw [quote] <;> decide
  rw [encode, List.cons_append, List.mem_cons, List.mem_append, List.mem_flatMap, List.mem_singleton] at member
  rcases member with rfl | ⟨_, _, escaped⟩ | rfl
  · exact quote
  · exact isPrintable_of_mem_escapeChar isQuote escaped
  · exact quote

end Scriptlet.Text.Quoted
