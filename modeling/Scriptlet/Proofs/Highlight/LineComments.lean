import Scriptlet.Proofs.Highlight.Locality
import Scriptlet.Proofs.Highlight.Sweep

/-!
Comments that end with their lines. The walk tries every place of a line until one is accepted, so that a line
has one comment of an opening text at most: from the first place at which the text stands and behind which, on
this line, no span begins that was accepted before.
-/
namespace Scriptlet
open Text (Cursor FirstFrom IsLine LineEndAt StandsAnyCase lineEnd)

namespace Highlight
variable {opening : List Char} {openings : List String} {code : List Char} {claims : Claims} {spans : List Span}
variable {span : Span} {i j p first stop : Nat}

def FreeFor (opening : List Char) (spans : List Span) (code : List Char) (i : Nat) : Prop :=
  StandsAnyCase opening code i ∧ ∀ other ∈ spans, other.start < lineEnd code i → other.stop ≤ i

/-- The first of the opening texts that has a free place on a line, at its first such place. -/
def LineOpens (free : List Char → Nat → Prop) (first stop : Nat) : List String → Nat → Prop
  | [], _ => False
  | opening :: others, p =>
    FirstFrom (free opening.toList) first p ∨
      (∀ i, first ≤ i → i < stop → ¬ free opening.toList i) ∧ LineOpens free first stop others p

theorem startsAnyCase_iff {wanted text : List Char} :
    startsAnyCase wanted text = true ↔
      (text.take wanted.length).map Text.foldChar = wanted.map Text.foldChar := by
  fun_induction startsAnyCase wanted text with
  | case1 => simp
  | case2 => simp
  | case3 w wanted c text ih => simp [ih]

theorem lineCommentProposer_eq_some_iff {proposal : Proposal} :
    lineCommentProposer opening (Text.place code i) = some proposal ↔
      StandsAnyCase opening code i ∧
        ⟨.comment, lineEnd code i - i, false, lineEnd code i - i, 0⟩ = proposal := by
  rw [StandsAnyCase, ← startsAnyCase_iff, lineEnd, Nat.add_sub_cancel_left]
  exact Option.ite_none_right_eq_some.trans (and_congr_right' Option.some_inj)

theorem stands_of_makes (makes : (lineCommentProposer opening).Makes code span) :
    span.kind = .comment ∧ StandsAnyCase opening code span.start ∧ span.stop = lineEnd code span.start := by
  obtain ⟨proposal, proposed, length, own⟩ := makes
  obtain ⟨stands, rfl⟩ := lineCommentProposer_eq_some_iff.mp proposed
  have after := Text.le_lineEnd code span.start
  refine ⟨own.symm, stands, ?_⟩
  rw [Span.stop, ← length]
  exact Nat.add_sub_cancel' after

theorem lt_lineEnd (inLine : Text.inLine opening = true) (stands : StandsAnyCase opening code i) : i < lineEnd code i := by
  have inside : ¬ LineEndAt code i := by
    obtain ⟨some, inLine⟩ := Text.inLine_iff.mp inLine
    rintro (none | newline)
    · have bound := Text.lt_length_of_standsAnyCase some stands
      rw [List.getElem?_eq_getElem bound] at none
      cases none
    · obtain ⟨c, rest, rfl⟩ := List.exists_cons_of_ne_nil some
      have front : code.drop i = '\n' :: (code.drop i).tail := by
        apply List.eq_cons_of_mem_head?
        rw [List.head?_drop, newline]
        rfl
      rw [StandsAnyCase, front, List.length_cons, List.take_succ_cons, List.map_cons, List.map_cons] at stands
      exact inLine c List.mem_cons_self ((List.cons.inj stands).1.symm.trans (by decide))
  refine Nat.lt_of_le_of_ne (Text.le_lineEnd code i) fun same => inside ?_
  rw [same]
  exact (Text.firstFrom_lineEnd code i).holds

structure Leads (opening : List Char) (spans : List Span) (code : List Char) (i p : Nat) : Prop where
  le : i ≤ p
  free : FreeFor opening spans code p
  least : ∀ q, i ≤ q → q < p → FreeFor opening spans code q → lineEnd code q ≤ p

theorem leads_succ_iff (taken : ¬ FreeFor opening spans code i) :
    Leads opening spans code i p ↔ Leads opening spans code (i + 1) p := by
  constructor
  · intro leads
    have differ : i ≠ p := fun same => taken (same ▸ leads.free)
    exact ⟨Nat.lt_of_le_of_ne leads.le differ, leads.free, fun q after => leads.least q (Nat.le_of_succ_le after)⟩
  · intro leads
    refine ⟨Nat.le_of_succ_le leads.le, leads.free, fun q after before free => ?_⟩
    rcases Nat.eq_or_lt_of_le after with rfl | later
    · exact absurd free taken
    · exact leads.least q later before free

/-- Behind a comment the search goes on with the next line. -/
theorem leads_iff_of_free (inLine : Text.inLine opening = true) (free : FreeFor opening spans code i)
    (begins : span.start = i) (ends : span.stop = lineEnd code i) :
    Leads opening spans code i p ↔ p = i ∨ Leads opening (span :: spans) code (lineEnd code i + 1) p := by
  have weaken {q : Nat} (free : FreeFor opening (span :: spans) code q) : FreeFor opening spans code q :=
    ⟨free.1, fun other member => free.2 other (List.mem_cons_of_mem _ member)⟩
  have strengthen {q : Nat} (behind : lineEnd code i ≤ q) (free : FreeFor opening spans code q) :
      FreeFor opening (span :: spans) code q :=
    ⟨free.1, List.forall_mem_cons.mpr ⟨fun _ => ends ▸ behind, free.2⟩⟩
  constructor
  · intro leads
    rcases Nat.eq_or_lt_of_le leads.le with same | later
    · exact .inl same.symm
    have behind := leads.least i (Nat.le_refl i) later free
    have differ : lineEnd code i ≠ p := by
      intro same
      have before := lt_lineEnd inLine leads.free.1
      rw [← same, Text.lineEnd_eq_of_le (Text.le_lineEnd code i) (Nat.le_refl _)] at before
      exact Nat.lt_irrefl _ before
    refine .inr ⟨Nat.lt_of_le_of_ne behind differ, strengthen behind leads.free, fun q after before free => ?_⟩
    exact leads.least q (Nat.le_trans (Text.le_lineEnd code i) (Nat.le_of_succ_le after)) before (weaken free)
  · rintro (rfl | leads)
    · exact ⟨Nat.le_refl p, free, fun q after before => absurd after (Nat.not_le.mpr before)⟩
    have behind := leads.le
    have after := Text.le_lineEnd code i
    refine ⟨by omega, weaken leads.free, fun q later before free => ?_⟩
    by_cases onLine : q ≤ lineEnd code i
    · rw [Text.lineEnd_eq_of_le later onLine]
      omega
    · exact leads.least q (by omega) before (strengthen (by omega) free)

private theorem freeFor_iff_apart (stands : StandsAnyCase opening code i) (before : i < lineEnd code i) :
    FreeFor opening spans code i ↔ ∀ other ∈ spans, other.Apart ⟨i, lineEnd code i - i, .comment⟩ := by
  rw [FreeFor, and_iff_right stands]
  refine forall₂_congr fun other _ => ?_
  simp only [Span.Apart, Span.stop]
  omega

private theorem lineCommentProposer_eq_none (other : ¬ StandsAnyCase opening code i) :
    lineCommentProposer opening (Text.place code i) = none := by
  rw [Option.eq_none_iff_forall_ne_some]
  exact fun proposal proposed => other (lineCommentProposer_eq_some_iff.mp proposed).1

theorem mem_walkFrom_lineComment_iff (inLine : Text.inLine opening = true) (sound : claims.Sound code.length) :
    span ∈ (Claims.walkFrom (consider (lineCommentProposer opening)) code i claims).spans ↔
      span ∈ claims.spans ∨ span.kind = .comment ∧ span.stop = lineEnd code span.start ∧
        Leads opening claims.spans code i span.start := by
  -- By induction on what is left of the text, as an accepted comment takes the walk to the next line.
  induction remains : code.length - i using Nat.strongRecOn generalizing i claims with
  | ind n ih =>
  by_cases inside : i < code.length
  case neg =>
    rw [Claims.walkFrom_of_length_le (Nat.not_lt.mp inside)]
    refine (or_iff_left fun leads => ?_).symm
    have bound := Text.lt_length_of_standsAnyCase (Text.inLine_iff.mp inLine).1 leads.2.2.free.1
    exact inside (Nat.lt_of_le_of_lt leads.2.2.le bound)
  have whole : (Text.place code i).stop = code.length := Text.stop_place (Nat.le_of_lt inside)
  have kept := sound_consider (bounded_lineCommentProposer opening) (Text.place code i) claims whole sound
  rw [Claims.walkFrom_of_lt inside]
  by_cases stands : StandsAnyCase opening code i
  case neg =>
    rw [consider_of_none (lineCommentProposer_eq_none stands), ih _ (by omega) sound rfl, Nat.add_zero,
      leads_succ_iff fun free => stands free.1]
  have proposed := lineCommentProposer_eq_some_iff.mpr ⟨stands, rfl⟩
  have before := lt_lineEnd inLine stands
  have free : FreeFor opening claims.spans code i ↔ _ := freeFor_iff_apart stands before
  have goesOn : i + 1 + (lineEnd code i - i) = lineEnd code i + 1 := by omega
  rcases consider_cases sound proposed (Nat.sub_pos_of_lt before) rfl with ⟨apart, added, skip⟩ | ⟨met, unchanged⟩
  · have ends : (⟨i, lineEnd code i - i, .comment⟩ : Span).stop = lineEnd code i := stop_mk_sub (Nat.le_of_lt before)
    rw [skip, goesOn, ih _ (by omega) kept rfl, added, leads_iff_of_free inLine (free.mpr apart) rfl ends]
    constructor
    · rintro (member | ⟨kind, ends, leads⟩)
      · rcases List.mem_cons.mp member with rfl | old
        · exact .inr ⟨rfl, ends, .inl rfl⟩
        · exact .inl old
      · exact .inr ⟨kind, ends, .inr leads⟩
    · rintro (old | ⟨kind, stop, start | leads⟩)
      · exact .inl (List.mem_cons_of_mem _ old)
      · have last : span.stop = i + (lineEnd code i - i) := by rw [stop, start, Nat.add_sub_cancel' (Nat.le_of_lt before)]
        exact .inl (List.mem_cons.mpr (.inl (eq_of_start_stop start last kind)))
      · exact .inr ⟨kind, stop, leads⟩
  · rw [unchanged, ih _ (by omega) sound rfl, Nat.add_zero, leads_succ_iff (mt free.mp met)]

theorem leads_zero_iff (inLine : Text.inLine opening = true) :
    Leads opening spans code 0 p ↔
      ∃ first, IsLine code first (lineEnd code p) ∧ FirstFrom (FreeFor opening spans code) first p := by
  constructor
  · intro leads
    have bound := Text.lt_length_of_standsAnyCase (Text.inLine_iff.mp inLine).1 leads.free.1
    obtain ⟨first, before, line⟩ := Text.exists_isLine (Nat.le_of_lt bound)
    refine ⟨first, line, before, leads.free, fun q after earlier free => ?_⟩
    have ends := leads.least q (Nat.zero_le q) earlier free
    have beyond := lt_lineEnd inLine leads.free.1
    rw [line.lineEnd_eq after (by omega)] at ends
    omega
  · rintro ⟨first, line, found⟩
    refine ⟨Nat.zero_le p, found.holds, fun q _ before free => ?_⟩
    by_cases earlier : q < first
    · exact Nat.le_trans (Nat.le_of_lt (line.lineEnd_lt earlier)) found.le
    · exact absurd free (found.least q (Nat.le_of_not_lt earlier) before)

/-- A pass for one opening text adds a comment on each line that has a free place for it, from the first one on. -/
theorem mem_lineCommentWalk_iff (inLine : Text.inLine opening = true) (sound : claims.Sound code.length) :
    span ∈ (claims.walkText (consider (lineCommentProposer opening)) code).spans ↔
      span ∈ claims.spans ∨ span.kind = .comment ∧ ∃ first, IsLine code first span.stop ∧ span.start < span.stop ∧
        FirstFrom (FreeFor opening claims.spans code) first span.start := by
  rw [Claims.walkText_eq_walkFrom, mem_walkFrom_lineComment_iff inLine sound, leads_zero_iff inLine]
  refine or_congr_right (and_congr_right fun _ => ?_)
  constructor
  · rintro ⟨ends, first, line, found⟩
    rw [ends]
    exact ⟨first, line, lt_lineEnd inLine found.holds.1, found⟩
  · rintro ⟨first, line, before, found⟩
    have ends := line.lineEnd_eq found.le (Nat.le_of_lt before)
    exact ⟨ends.symm, first, ends.symm ▸ line, found⟩

namespace LineOpens
variable {free other : List Char → Nat → Prop}

theorem exists_free (opens : LineOpens free first stop openings p) :
    first ≤ p ∧ ∃ opening ∈ openings, free opening.toList p := by
  induction openings with
  | nil => exact opens.elim
  | cons opening others ih =>
    rcases opens with found | ⟨_, later⟩
    · exact ⟨found.le, opening, List.mem_cons_self, found.holds⟩
    · obtain ⟨after, opening, listed, holds⟩ := ih later
      exact ⟨after, opening, List.mem_cons_of_mem _ listed, holds⟩

theorem congr (same : ∀ opening ∈ openings, ∀ i, first ≤ i → i < stop → (free opening.toList i ↔ other opening.toList i))
    (before : p < stop) : LineOpens free first stop openings p ↔ LineOpens other first stop openings p := by
  induction openings with
  | nil => exact Iff.rfl
  | cons opening others ih =>
    have here := same opening List.mem_cons_self
    have later := ih fun opening listed => same opening (List.mem_cons_of_mem _ listed)
    refine or_congr (FirstFrom.congr fun i after upTo => here i after (by omega)) (and_congr ?_ later)
    exact forall₃_congr fun i after upTo => not_congr (here i after upTo)

end LineOpens

/-- After the comments of one opening text, only lines without them have free places. -/
theorem freeFor_lineCommentWalk_iff (inLine : Text.inLine opening = true) (sound : claims.Sound code.length)
    (line : IsLine code first stop) (after : first ≤ i) (before : i < stop) (other : List Char) :
    FreeFor other (claims.walkText (consider (lineCommentProposer opening)) code).spans code i ↔
      FreeFor other claims.spans code i ∧
        ∀ j, first ≤ j → j < stop → ¬ FreeFor opening claims.spans code j := by
  have ends := line.lineEnd_eq after (Nat.le_of_lt before)
  constructor
  · intro free
    refine ⟨⟨free.1, fun span old => free.2 span ((mem_lineCommentWalk_iff inLine sound).mpr (.inl old))⟩, ?_⟩
    intro j afterFirst beforeStop found
    obtain ⟨p, upTo, least⟩ := Text.exists_firstFrom afterFirst found
    have whole : (⟨p, stop - p, .comment⟩ : Span).stop = stop := stop_mk_sub (by omega)
    have member : ⟨p, stop - p, .comment⟩ ∈ (claims.walkText (consider (lineCommentProposer opening)) code).spans := by
      refine (mem_lineCommentWalk_iff inLine sound).mpr (.inr ⟨rfl, first, ?_, ?_, least⟩)
      · rwa [whole]
      · rw [whole]
        exact Nat.lt_of_le_of_lt upTo beforeStop
    have clear := free.2 _ member
    rw [whole, ends] at clear
    exact absurd (clear (Nat.lt_of_le_of_lt upTo beforeStop)) (Nat.not_le.mpr before)
  · rintro ⟨⟨stands, clear⟩, none⟩
    refine ⟨stands, fun span member begins => ?_⟩
    rcases (mem_lineCommentWalk_iff inLine sound).mp member with old | ⟨_, _, ownLine, positive, found⟩
    · exact clear span old begins
    · rw [ends] at begins
      have own := ownLine.lineEnd_eq found.le (Nat.le_of_lt positive)
      by_cases earlier : span.start < first
      · rw [← own]
        exact Nat.le_trans (Nat.le_of_lt (line.lineEnd_lt earlier)) after
      · exact absurd found.holds (none span.start (Nat.le_of_not_lt earlier) begins)

theorem mem_lineCommentWalks_iff (inLine : ∀ opening ∈ openings, Text.inLine opening.toList = true)
    (sound : claims.Sound code.length) :
    span ∈ (walkAll (openings.map (lineCommentProposer ·.toList)) code claims).spans ↔
      span ∈ claims.spans ∨ span.kind = .comment ∧ ∃ first, IsLine code first span.stop ∧ span.start < span.stop ∧
        LineOpens (FreeFor · claims.spans code) first span.stop openings span.start := by
  induction openings generalizing claims with
  | nil => simp [walkAll, LineOpens]
  | cons opening others ih =>
    have own := inLine opening List.mem_cons_self
    have later := ih (fun other listed => inLine other (List.mem_cons_of_mem _ listed))
      (sound_walkText (bounded_lineCommentProposer opening.toList) sound)
    refine later.trans ?_
    rw [mem_lineCommentWalk_iff own sound, or_assoc, ← and_or_left, ← exists_or]
    refine or_congr_right (and_congr_right fun _ => exists_congr fun first => ?_)
    rw [← and_or_left]
    refine and_congr_right fun line => ?_
    rw [← and_or_left]
    refine and_congr_right fun before => or_congr_right ?_
    have free := freeFor_lineCommentWalk_iff own sound line (i := span.start)
    by_cases none : ∀ j, first ≤ j → j < span.stop → ¬ FreeFor opening.toList claims.spans code j
    · rw [and_iff_right none]
      refine LineOpens.congr (fun other _ i after upTo => ?_) before
      rw [freeFor_lineCommentWalk_iff own sound line after upTo, and_iff_left none]
    · refine iff_of_false (fun opens => ?_) fun opens => none opens.1
      obtain ⟨after, other, _, holds⟩ := opens.exists_free
      exact none ((freeFor_lineCommentWalk_iff own sound line after before _).mp holds).2

theorem lineCommentWalks_ne_nil {sought : String} (inLine : ∀ opening ∈ openings, Text.inLine opening.toList = true)
    (sound : claims.Sound code.length) (listed : sought ∈ openings) (stands : StandsAnyCase sought.toList code i) :
    (walkAll (openings.map (lineCommentProposer ·.toList)) code claims).spans ≠ [] := by
  induction openings generalizing claims with
  | nil => cases listed
  | cons opening others ih =>
    have own := inLine opening List.mem_cons_self
    rcases List.mem_cons.mp listed with rfl | later
    · have some : ∃ span, span ∈ (claims.walkText (consider (lineCommentProposer sought.toList)) code).spans := by
        by_cases nothing : claims.spans = []
        · -- The first place is free as nothing was accepted before.
          have free : FreeFor sought.toList claims.spans code i := by
            rw [nothing]
            exact ⟨stands, nofun⟩
          obtain ⟨p, _, found⟩ := Text.exists_firstFrom (Nat.zero_le i) free
          have ends : (⟨p, lineEnd code p - p, .comment⟩ : Span).stop = lineEnd code p := stop_mk_sub (Text.le_lineEnd code p)
          have leads : Leads sought.toList claims.spans code 0 p :=
            ⟨found.le, found.holds, fun q after before free => absurd free (found.least q after before)⟩
          exact ⟨_, (mem_walkFrom_lineComment_iff own sound).mpr (.inr ⟨rfl, ends, leads⟩)⟩
        · obtain ⟨span, old⟩ := List.exists_mem_of_ne_nil _ nothing
          exact ⟨span, (mem_lineCommentWalk_iff own sound).mpr (.inl old)⟩
      obtain ⟨span, member⟩ := some
      rw [List.map_cons, walkAll, List.foldl_cons]
      exact List.ne_nil_of_mem (mem_walkAll_of_mem member)
    · have kept := sound_walkText (bounded_lineCommentProposer opening.toList) sound
      exact ih (fun other listed => inLine other (List.mem_cons_of_mem _ listed)) kept later

end Highlight
end Scriptlet
