import Scriptlet.Path

/-!
Paths and their texts. A path in normal form is read back from its text, and what is read from a text is
in normal form.
-/
namespace Scriptlet.Path

/-- Whether a text can be a part of a path: it is not empty, no single dot, and has no slash. -/
def IsPart (part : String) : Prop := part ≠ "" ∧ part ≠ "." ∧ '/' ∉ part.toList

def Normal (path : Path) : Prop := ∀ part ∈ path.parts, IsPart part

theorem isPart_iff {part : String} : isPart part.toList = true ↔ part ≠ "" ∧ part ≠ "." := by
  have empty : part.toList = [] ↔ part = "" := by simp
  have dot : part.toList = ['.'] ↔ part = "." := by
    rw [← String.toList_inj]
    rfl
  simp [isPart, empty, dot]

private theorem splitSlashes_append {part : List Char} (noSlash : '/' ∉ part) (piece rest : List Char) :
    splitSlashes piece (part ++ rest) = splitSlashes (part.reverse ++ piece) rest := by
  induction part generalizing piece with
  | nil => rfl
  | cons c part ih =>
    simp only [List.mem_cons, not_or] at noSlash
    rw [List.cons_append, splitSlashes, if_neg (Ne.symm noSlash.1), ih noSlash.2]
    simp

private theorem splitSlashes_intercalate {parts : List (List Char)} (some : parts ≠ [])
    (noSlash : ∀ part ∈ parts, '/' ∉ part) : splitSlashes [] (['/'].intercalate parts) = parts := by
  induction parts with
  | nil => exact absurd rfl some
  | cons part rest ih =>
    have first := noSlash part (by simp)
    cases rest with
    | nil =>
      have whole := splitSlashes_append first [] []
      simpa [splitSlashes] using whole
    | cons next rest =>
      have later := ih (by simp) fun other member => noSlash other (List.mem_cons_of_mem _ member)
      rw [List.intercalate_cons_cons, List.append_assoc, splitSlashes_append first]
      simp [splitSlashes, later]

private theorem not_mem_of_mem_splitSlashes {piece text part : List Char} (noSlash : '/' ∉ piece)
    (member : part ∈ splitSlashes piece text) : '/' ∉ part := by
  induction text generalizing piece with
  | nil =>
    simp only [splitSlashes, List.mem_singleton] at member
    simpa [member] using noSlash
  | cons c text ih =>
    rw [splitSlashes] at member
    split at member
    next =>
      rcases List.mem_cons.mp member with rfl | later
      · simpa using noSlash
      · exact ih (by simp) later
    next other =>
      refine ih ?_ member
      simp only [List.mem_cons, not_or]
      exact ⟨Ne.symm other, noSlash⟩

theorem normal_ofString (text : String) : (ofString text).Normal := by
  intro part member
  simp only [ofString, List.mem_map, List.mem_filter] at member
  obtain ⟨piece, ⟨found, kept⟩, rfl⟩ := member
  have noSlash := not_mem_of_mem_splitSlashes (by simp) found
  rw [← String.toList_ofList (l := piece)] at kept noSlash
  obtain ⟨notEmpty, notDot⟩ := isPart_iff.mp kept
  exact ⟨notEmpty, notDot, noSlash⟩

theorem Normal.join {base path : Path} (normalBase : base.Normal) (normal : path.Normal) :
    (base.join path).Normal := by
  unfold Path.join
  split
  next =>
    intro part member
    rcases List.mem_append.mp member with inBase | inPath
    · exact normalBase part inBase
    · exact normal part inPath
  next => exact normal

-- A double slash is an anchor only if no third slash follows, so the parts must not begin with one.
private theorem anchorOf_append (anchor : Anchor) {text : List Char} (noSlash : text.head? ≠ some '/') :
    anchorOf ((anchorText anchor).toList ++ text) = anchor := by
  cases text with
  | nil => cases anchor <;> rfl
  | cons c rest =>
    have other : c ≠ '/' := by simpa using noSlash
    cases anchor <;> simp [anchorOf, anchorText, other]

private theorem parts_anchorText (anchor : Anchor) (text : List Char) :
    (splitSlashes [] ((anchorText anchor).toList ++ text)).filter isPart =
      (splitSlashes [] text).filter isPart := by
  cases anchor <;> simp [anchorText, splitSlashes, isPart]

private theorem head?_intercalate {parts : List (List Char)} (noSlash : ∀ part ∈ parts, '/' ∉ part)
    (notEmpty : ∀ part ∈ parts, part ≠ []) : (['/'].intercalate parts).head? ≠ some '/' := by
  cases parts with
  | nil => simp
  | cons part rest =>
    obtain ⟨c, later, rfl⟩ := List.exists_cons_of_ne_nil (notEmpty part (by simp))
    have first : c ≠ '/' := by
      rintro rfl
      exact noSlash ('/' :: later) (by simp) (by simp)
    cases rest <;> simp [first]

/-- A path in normal form is read back from its text. -/
theorem Normal.ofString_toString {path : Path} (normal : path.Normal) : ofString path.toString = path := by
  obtain ⟨anchor, parts⟩ := path
  cases parts with
  | nil => cases anchor <;> decide
  | cons first rest =>
    have text : (toString ⟨anchor, first :: rest⟩).toList =
        (anchorText anchor).toList ++ ['/'].intercalate ((first :: rest).map String.toList) := by
      rw [show toString ⟨anchor, first :: rest⟩ = anchorText anchor ++ "/".intercalate (first :: rest) by
        cases anchor <;> rfl, String.toList_append, String.toList_intercalate]
      rfl
    have noSlash : ∀ part ∈ (first :: rest).map String.toList, '/' ∉ part := by
      intro part member
      obtain ⟨own, listed, rfl⟩ := List.mem_map.mp member
      exact (normal own listed).2.2
    have isPart : ∀ part ∈ (first :: rest).map String.toList, isPart part = true := by
      intro part member
      obtain ⟨own, listed, rfl⟩ := List.mem_map.mp member
      exact isPart_iff.mpr ⟨(normal own listed).1, (normal own listed).2.1⟩
    have notEmpty : ∀ part ∈ (first :: rest).map String.toList, part ≠ [] := by
      rintro _ member rfl
      exact absurd (isPart [] member) (by decide)
    have back : String.ofList ∘ String.toList = id := funext fun _ => String.ofList_toList
    rw [ofString, text, anchorOf_append anchor (head?_intercalate noSlash notEmpty), parts_anchorText,
      splitSlashes_intercalate (by simp) noSlash, List.filter_eq_self.mpr isPart, List.map_map, back,
      List.map_id]

theorem ofString_of_isPart {part : String} (isPart : IsPart part) : ofString part = ⟨.here, [part]⟩ := by
  have normal : Normal ⟨.here, [part]⟩ := by
    intro other member
    rwa [List.mem_singleton.mp member]
  have text : toString ⟨.here, [part]⟩ = part := by simp [toString, anchorText]
  have same := normal.ofString_toString
  rwa [text] at same

private theorem mem_of_mem_splitSlashes {piece text part : List Char} {c : Char}
    (found : part ∈ splitSlashes piece text) (member : c ∈ part) : c ∈ piece ∨ c ∈ text := by
  induction text generalizing piece with
  | nil =>
    simp only [splitSlashes, List.mem_singleton] at found
    exact .inl (by simpa [found] using member)
  | cons next text ih =>
    rw [splitSlashes] at found
    split at found
    next =>
      rcases List.mem_cons.mp found with rfl | later
      · exact .inl (by simpa using member)
      · have rest := ih later
        simp only [List.not_mem_nil, false_or] at rest
        exact .inr (List.mem_cons_of_mem _ rest)
    next =>
      rcases ih found with inPiece | rest
      · rcases List.mem_cons.mp inPiece with rfl | before
        · exact .inr (by simp)
        · exact .inl before
      · exact .inr (List.mem_cons_of_mem _ rest)

theorem mem_of_mem_parts {text part : String} {c : Char} (found : part ∈ (ofString text).parts)
    (member : c ∈ part.toList) : c ∈ text.toList := by
  simp only [ofString, List.mem_map, List.mem_filter] at found
  obtain ⟨piece, ⟨listed, _⟩, rfl⟩ := found
  rw [String.toList_ofList] at member
  simpa using mem_of_mem_splitSlashes listed member

private theorem mem_intercalate {parts : List (List Char)} {c : Char}
    (member : c ∈ ['/'].intercalate parts) : c = '/' ∨ ∃ part ∈ parts, c ∈ part := by
  induction parts with
  | nil => simp at member
  | cons part rest ih =>
    cases rest with
    | nil => exact .inr ⟨part, by simp, by simpa using member⟩
    | cons next rest =>
      rw [List.intercalate_cons_cons, List.mem_append, List.mem_append, List.mem_singleton] at member
      rcases member with (inside | slash) | later
      · exact .inr ⟨part, by simp, inside⟩
      · exact .inl slash
      · exact (ih later).imp_right fun ⟨other, listed, inside⟩ =>
          ⟨other, List.mem_cons_of_mem _ listed, inside⟩

/-- The text of a path adds slashes and a dot to its parts, and nothing else. -/
theorem mem_toString {path : Path} {c : Char} (member : c ∈ path.toString.toList) :
    c = '/' ∨ c = '.' ∨ ∃ part ∈ path.parts, c ∈ part.toList := by
  have own {anchor : Anchor} (inside : c ∈ (anchorText anchor ++ "/".intercalate path.parts).toList) :
      c = '/' ∨ c = '.' ∨ ∃ part ∈ path.parts, c ∈ part.toList := by
    rw [String.toList_append, List.mem_append, String.toList_intercalate] at inside
    rcases inside with slashes | rest
    · have slash : c = '/' := by cases anchor <;> simp [anchorText] at slashes <;> exact slashes
      exact .inl slash
    · rcases mem_intercalate rest with slash | ⟨_, listed, inside⟩
      · exact .inl slash
      · obtain ⟨part, found, rfl⟩ := List.mem_map.mp listed
        exact .inr (.inr ⟨part, found, inside⟩)
  rw [toString.eq_def] at member
  split at member
  · exact .inr (.inl (by simpa using member))
  · exact own member

/-- One more part stands at the end of the text of a path, behind a lead that adds nothing but a slash. -/
theorem exists_toString_join (base : Path) (part : String) :
    ∃ lead, (base.join ⟨.here, [part]⟩).toString = lead ++ part ∧
      ∀ c ∈ lead.toList, c = '/' ∨ c ∈ base.toString.toList := by
  obtain ⟨anchor, parts⟩ := base
  cases parts with
  | nil =>
    refine ⟨anchorText anchor, by cases anchor <;> simp [join, toString, anchorText], fun c member => .inl ?_⟩
    cases anchor <;> simp [anchorText] at member <;> exact member
  | cons first rest =>
    have whole : toString ⟨anchor, first :: rest⟩ = anchorText anchor ++ "/".intercalate (first :: rest) := by
      cases anchor <;> rfl
    have longer : toString (join ⟨anchor, first :: rest⟩ ⟨.here, [part]⟩) =
        anchorText anchor ++ "/".intercalate (first :: rest ++ [part]) := by
      cases anchor <;> rfl
    rw [String.intercalate_append_of_ne_nil (List.cons_ne_nil _ _) (List.cons_ne_nil _ _),
      String.intercalate_singleton, ← String.append_assoc, ← String.append_assoc, ← whole] at longer
    refine ⟨toString ⟨anchor, first :: rest⟩ ++ "/", longer, fun c member => ?_⟩
    rw [String.toList_append, List.mem_append] at member
    exact member.symm.imp_left fun slash => by simpa using slash

end Scriptlet.Path
