import Scriptlet.Text.Basic

/-!
One form of line ends. No carriage return is left, and a text that has none stays as it is.
-/
namespace Scriptlet.Text

theorem not_mem_unifyNewlines (text : List Char) : '\r' ∉ unifyNewlines text := by
  fun_induction unifyNewlines text with
  | case1 => exact List.not_mem_nil
  | case2 rest ih => simpa using ih
  | case3 rest _ ih => simpa using ih
  | case4 c rest _ other ih =>
    intro member
    rcases List.mem_cons.mp member with same | later
    · exact other same.symm
    · exact ih later

theorem unifyNewlines_of_not_mem {text : List Char} (plain : '\r' ∉ text) : unifyNewlines text = text := by
  fun_induction unifyNewlines text with
  | case1 => rfl
  | case2 rest => exact absurd List.mem_cons_self plain
  | case3 rest => exact absurd List.mem_cons_self plain
  | case4 c rest _ _ ih => rw [ih fun later => plain (List.mem_cons_of_mem c later)]

theorem unifyNewlines_eq_self_iff {text : List Char} : unifyNewlines text = text ↔ '\r' ∉ text := by
  constructor
  · intro same
    rw [← same]
    exact not_mem_unifyNewlines text
  · exact unifyNewlines_of_not_mem

theorem toUTF8_unifyNewlines_eq_iff {text : String} :
    (String.ofList (unifyNewlines text.toList)).toUTF8 = text.toUTF8 ↔ '\r' ∉ text.toList :=
  calc
    (String.ofList (unifyNewlines text.toList)).toUTF8 = text.toUTF8
      ↔ String.ofList (unifyNewlines text.toList) = text := String.toByteArray_inj
    _ ↔ unifyNewlines text.toList = text.toList := by
      rw [← String.toList_inj, String.toList_ofList]
    _ ↔ '\r' ∉ text.toList := unifyNewlines_eq_self_iff

end Scriptlet.Text
