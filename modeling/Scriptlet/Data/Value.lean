import Scriptlet.Number.Binary64

/-!
Dynamic values, as configuration files and environment variables hold them before they are checked.
-/
namespace Scriptlet

inductive Value where
  | null
  | bool (b : Bool)
  | int (n : Int)
  | float (x : Binary64)
  | text (s : String)
  /-- Text with half of a surrogate pair in it; what it says is not kept. -/
  | brokenText
  | bytes (content : List UInt8)
  /-- A calendar date; only its canonical text is kept. -/
  | date (written : String)
  /-- A date with a time of day, and its distance in microseconds from a fixed moment if its distance from
  universal time is known. -/
  | timestamp (written : String) (instant : Option Int)
  | list (items : List Value)
  | set (items : List Value)
  | map (entries : List (Value × Value))
  deriving Repr, Inhabited

namespace Value

/-- The integer that a value stands for as a key; truth values count as 0 and 1. -/
private def asInt? : Value → Option Int
  | bool b => some (if b then 1 else 0)
  | int n => some n
  | float x => x.toInt?
  | _ => none

/-- Whether two values are the same key of a map. Keys are scalars; numbers are compared by value, and so
are moments that are both told from universal time. -/
def sameKey : Value → Value → Bool
  | null, null => true
  | text a, text b => a = b
  | bytes a, bytes b => a = b
  | date a, date b => a = b
  | timestamp _ (some a), timestamp _ (some b) => a = b
  | timestamp a none, timestamp b none => a = b
  | float a, float b => a.same b
  | a, b =>
    match asInt? a, asInt? b with
    | some m, some n => m = n
    | _, _ => false

theorem sameKey_text_iff {key : Value} {name : String} : key.sameKey (text name) = true ↔ key = text name := by
  cases key with
  | text own => simp [sameKey]
  | float x => cases whole : x.toInt? <;> simp [sameKey, asInt?, whole]
  | null | bool | int | brokenText | bytes | date | timestamp | list | set | map => simp [sameKey, asInt?]

theorem text_sameKey_iff {key : Value} {name : String} : (text name).sameKey key = true ↔ key = text name := by
  cases key with
  | text own => simp [sameKey, eq_comm]
  | float x => simp [sameKey, asInt?]
  | null | bool | int | brokenText | bytes | date | timestamp | list | set | map => simp [sameKey, asInt?]

theorem sameKey_bytes_iff {key : Value} {content : List UInt8} :
    key.sameKey (bytes content) = true ↔ key = bytes content := by
  cases key with
  | bytes own => simp [sameKey]
  | float x => cases whole : x.toInt? <;> simp [sameKey, asInt?, whole]
  | null | bool | int | text | brokenText | date | timestamp | list | set | map => simp [sameKey, asInt?]

theorem bytes_sameKey_iff {key : Value} {content : List UInt8} :
    (bytes content).sameKey key = true ↔ key = bytes content := by
  cases key with
  | bytes own => simp [sameKey, eq_comm]
  | float x => simp [sameKey, asInt?]
  | null | bool | int | text | brokenText | date | timestamp | list | set | map => simp [sameKey, asInt?]

def kindName : Value → String
  | null => "NoneType"
  | bool _ => "bool"
  | int _ => "int"
  | float _ => "float"
  | text _ | brokenText => "str"
  | bytes _ => "bytes"
  | date _ => "date"
  | timestamp _ _ => "datetime"
  | list _ => "list"
  | set _ => "set"
  | map _ => "dict"

def isNull : Value → Bool
  | null => true
  | _ => false

def text? : Value → Option String
  | text s => some s
  | _ => none

def bool? : Value → Option Bool
  | bool b => some b
  | _ => none

inductive EncodingFault where
  | surrogates
  | noText (kind : String)
  deriving DecidableEq, Repr

def EncodingFault.message : EncodingFault → String
  | surrogates => "'utf-8' codec can't encode characters: surrogates not allowed"
  | noText kind => "write() argument must be str, not " ++ kind

def utf8 : Value → Except EncodingFault ByteArray
  | text s => .ok s.toUTF8
  | brokenText => .error .surrogates
  | value => .error (.noText value.kindName)

theorem utf8_eq_ok_iff {value : Value} {content : ByteArray} :
    value.utf8 = .ok content ↔ ∃ s, value = text s ∧ s.toUTF8 = content := by
  cases value <;> simp [utf8]

def isText : Value → Bool
  | text _ | brokenText => true
  | _ => false

/-- Sets the value of a key: a new key goes to the end, a known one keeps its place. -/
def putEntry (entries : List (Value × Value)) (key value : Value) : List (Value × Value) :=
  if entries.any fun entry => entry.1.sameKey key then
    entries.map fun entry => if entry.1.sameKey key then (entry.1, value) else entry
  else entries ++ [(key, value)]

def Distinct (entries : List (Value × Value)) : Prop :=
  entries.Pairwise fun first second => first.1.sameKey second.1 = false

theorem putEntry_of_fresh {entries : List (Value × Value)} {key : Value}
    (fresh : ∀ entry ∈ entries, entry.1.sameKey key = false) (value : Value) :
    putEntry entries key value = entries ++ [(key, value)] := by
  have absent : ¬ (entries.any fun entry => entry.1.sameKey key) = true := by
    intro found
    obtain ⟨entry, member, same⟩ := List.any_eq_true.mp found
    rw [fresh entry member] at same
    cases same
  rw [putEntry, if_neg absent]

theorem Distinct.putEntry {entries : List (Value × Value)} (distinct : Distinct entries) (key value : Value) :
    Distinct (putEntry entries key value) := by
  unfold Value.putEntry
  split
  next =>
    refine List.pairwise_map.mpr (distinct.imp fun {first second} differ => ?_)
    split <;> split <;> exact differ
  next absent =>
    refine List.pairwise_append.mpr ⟨distinct, List.pairwise_singleton _ _, ?_⟩
    intro entry member last isLast
    rw [List.mem_singleton.mp isLast]
    exact Bool.not_eq_true _ ▸ fun same => absent (List.any_eq_true.mpr ⟨entry, member, same⟩)

theorem mem_putEntry {entries : List (Value × Value)} {key value : Value} {entry : Value × Value}
    (member : entry ∈ putEntry entries key value) :
    entry ∈ entries ∨ entry.2 = value ∧ (entry.1 = key ∨ ∃ old ∈ entries, old.1 = entry.1) := by
  unfold putEntry at member
  split at member
  next =>
    obtain ⟨old, inside, rfl⟩ := List.mem_map.mp member
    split
    · exact .inr ⟨rfl, .inr ⟨old, inside, rfl⟩⟩
    · exact .inl inside
  next =>
    rcases List.mem_append.mp member with inside | last
    · exact .inl inside
    · obtain rfl := List.mem_singleton.mp last
      exact .inr ⟨rfl, .inl rfl⟩

/-- Every map has keys of some kind and no key twice, and so have the maps that are values in it, at any depth.
Nothing is said of maps in lists. -/
inductive Proper (isKey : Value → Bool) : Value → Prop
  | map {entries : List (Value × Value)} (distinct : Distinct entries)
      (keys : ∀ entry ∈ entries, isKey entry.1 = true) (inner : ∀ entry ∈ entries, entry.2.Proper isKey) :
      Proper isKey (map entries)
  | leaf {value : Value} (noMap : ∀ entries, value ≠ map entries) : Proper isKey value

namespace Proper
variable {isKey : Value → Bool} {entries : List (Value × Value)} {key value : Value}

theorem distinct (proper : (Value.map entries).Proper isKey) : Distinct entries := by
  cases proper with
  | map distinct => exact distinct
  | leaf noMap => exact absurd rfl (noMap entries)

theorem keys (proper : (Value.map entries).Proper isKey) : ∀ entry ∈ entries, isKey entry.1 = true := by
  cases proper with
  | map _ keys => exact keys
  | leaf noMap => exact absurd rfl (noMap entries)

theorem inner (proper : (Value.map entries).Proper isKey) : ∀ entry ∈ entries, entry.2.Proper isKey := by
  cases proper with
  | map _ _ inner => exact inner
  | leaf noMap => exact absurd rfl (noMap entries)

theorem empty : (Value.map []).Proper isKey := .map List.Pairwise.nil nofun nofun

theorem putEntry (proper : (Value.map entries).Proper isKey) (kind : isKey key = true) (own : value.Proper isKey) :
    (Value.map (putEntry entries key value)).Proper isKey := by
  refine .map (proper.distinct.putEntry key value) (fun entry member => ?_) fun entry member => ?_
  · rcases mem_putEntry member with inside | ⟨_, same | ⟨old, inside, same⟩⟩
    · exact proper.keys entry inside
    · exact same ▸ kind
    · exact same ▸ proper.keys old inside
  · rcases mem_putEntry member with inside | ⟨same, _⟩
    · exact proper.inner entry inside
    · exact same ▸ own

end Proper

def lookup? (entries : List (Value × Value)) (key : String) : Option Value :=
  (entries.find? fun entry => entry.1.sameKey (text key)).map Prod.snd

end Value
end Scriptlet
