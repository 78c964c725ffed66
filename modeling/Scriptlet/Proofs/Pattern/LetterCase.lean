import Scriptlet.Proofs.Pattern.Match
import Scriptlet.Proofs.Text.LetterCase

/-!
Patterns whose classes hold a letter in both cases or in neither. Such a pattern matches a text as it
matches the text in small letters, and takes the same characters of it.
-/
namespace Scriptlet
open Text (Cursor)

def CharClass.ignoresCase (chars : CharClass) : Bool :=
  Text.capitals.all fun c => chars.has c.toLower = chars.has c

def Pattern.ignoresCase (pattern : Pattern) : Bool := pattern.all CharClass.ignoresCase

theorem CharClass.has_toLower {chars : CharClass} (ignores : chars.ignoresCase = true) (c : Char) :
    chars.has c.toLower = chars.has c :=
  Text.toLower_congr ignores c

namespace Pattern
variable {α : Type} {next next' : Cursor → Option α}

private theorem newline_toLower (near : Option Char) :
    (near.map Char.toLower).all (· = '\n') = near.all (· = '\n') := by
  have plain (c : Char) : c.toLower = '\n' ↔ c = '\n' := Text.toLower_eq_iff (by decide)
  cases near <;> simp [plain]

private theorem atWordEdge_toLower (here : Cursor) : atWordEdge here.toLower = atWordEdge here := by
  cases before : here.before <;> cases rest : here.rest <;> simp [atWordEdge, Cursor.toLower, before, rest]

private theorem alike_toLower : Alike (fun lower here => lower = here.toLower) CharClass.ignoresCase where
  takes := by
    rintro _ here rfl chars ignores
    cases rest : here.rest <;> simp [Cursor.toLower, rest, CharClass.has_toLower ignores]
  next := by
    intro o i b b' c c' rest rest' place
    cases place
    rfl
  wordEdge := by
    rintro _ here rfl
    exact atWordEdge_toLower here
  lineStart := by
    rintro _ here rfl
    exact newline_toLower here.before
  lineEnd := by
    rintro _ here rfl
    simpa only [Cursor.toLower, List.head?_map] using newline_toLower here.rest.head?

theorem matchThen_toLower {pattern : Pattern} (ignores : pattern.ignoresCase = true)
    (same : ∀ here : Cursor, next here.toLower = next' here) (here : Cursor) :
    pattern.matchThen next here.toLower = pattern.matchThen next' here := by
  refine matchThen_of_alike alike_toLower ignores ?_ rfl
  rintro _ inner rfl
  exact same inner

theorem matchEnd?_toLower {pattern : Pattern} (ignores : pattern.ignoresCase = true) (here : Cursor) :
    (pattern.matchEnd? here.toLower).map Cursor.offset = (pattern.matchEnd? here).map Cursor.offset := by
  rw [matchEnd?, matchEnd?, ← matchThen_map, ← matchThen_map]
  exact matchThen_toLower ignores (fun _ => rfl) here

end Pattern
end Scriptlet
