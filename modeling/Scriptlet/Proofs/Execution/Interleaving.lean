import Scriptlet.Proofs.Execution.Steps

/-!
Two calls at once on one host, which take their steps in any order. If their working directories are
different places, or the names of their files begin differently, neither of them notices the other one.
-/
namespace Scriptlet
open FileSystem (AgreesBut)

private theorem exists_stem (language : Language) :
    ∃ stem, language.extension.toList = '.' :: stem ∧ '.' ∉ stem := by
  cases language <;> exact ⟨_, rfl, by decide⟩

private theorem eq_of_append_dot {a b stem other : List Char} (plain : '.' ∉ stem) (plainOther : '.' ∉ other)
    (same : a ++ '.' :: stem = b ++ '.' :: other) : a = b := by
  rcases List.append_eq_append_iff.mp same with ⟨more, longer, rest⟩ | ⟨more, longer, rest⟩
  · cases more with
    | nil => simpa using longer.symm
    | cons c more =>
      simp only [List.cons_append, List.cons.injEq] at rest
      exact absurd (by simp [rest.2]) plain
  · cases more with
    | nil => simpa using longer
    | cons c more =>
      simp only [List.cons_append, List.cons.injEq] at rest
      exact absurd (by simp [rest.2]) plainOther

/-- An extension has one point, at its front: where a name with an extension is cut is never in doubt. -/
theorem Language.prefix_eq_of_append_extension {a b : String} {language other : Language}
    (same : a ++ language.extension = b ++ other.extension) : a = b := by
  obtain ⟨stem, extension, plain⟩ := exists_stem language
  obtain ⟨stem', extension', plain'⟩ := exists_stem other
  have chars := congrArg String.toList same
  rw [String.toList_append, String.toList_append, extension, extension'] at chars
  exact String.toList_inj.mp (eq_of_append_dot plain plain' chars)

namespace Call

/-- The working directories are different places, or the names of the files begin differently. -/
def Apart (call other : Call) (files : FileSystem) : Prop :=
  call.home? files ≠ other.home? files ∨
    call.executor.settings.tempFilePrefix ≠ other.executor.settings.tempFilePrefix

theorem Apart.symm {call other : Call} {files : FileSystem} (apart : call.Apart other files) :
    other.Apart call files :=
  apart.imp Ne.symm Ne.symm

theorem Apart.place?_ne {call other : Call} {files : FileSystem} {location : Location}
    (apart : call.Apart other files)
    (valid : ∃ given, Config.readExecution given = .ok call.executor.settings)
    (validOther : ∃ given, Config.readExecution given = .ok other.executor.settings)
    (found : call.place? files = some location) : other.place? files ≠ some location := by
  intro foundOther
  obtain ⟨home, language, directory, place⟩ := exists_home_of_place? valid found
  obtain ⟨home', language', directory', place'⟩ := exists_home_of_place? validOther foundOther
  obtain ⟨homes, names⟩ := List.append_inj' (place.symm.trans place') rfl
  rcases apart with homesDiffer | namesDiffer
  · apply homesDiffer
    rw [directory, directory', homes]
  · apply namesDiffer
    exact Language.prefix_eq_of_append_extension (List.singleton_inj.mp names)

end Call

inductive Side where
  | first
  | second
  deriving DecidableEq, Repr

def Side.other : Side → Side
  | first => second
  | second => first

theorem Side.eq_or_eq_other (side turn : Side) : side = turn ∨ side = turn.other ∧ turn = side.other := by
  cases side <;> cases turn <;> simp [other]

structure Joint where
  progress : Side → Call.Progress
  host : Host

namespace Joint

def start (host : Host) : Joint := ⟨fun _ => .begun, host⟩

variable (calls : Side → Call)

def move (joint : Joint) (turn : Side) : Joint :=
  let (progress, host) := (calls turn).step (joint.progress turn) joint.host
  ⟨Function.update joint.progress turn progress, host⟩

/-- The calls take their steps in a given order. A call that has ended stays as it is. -/
def play (joint : Joint) : List Side → Joint
  | [] => joint
  | turn :: turns => play (joint.move calls turn) turns

def attempts (side : Side) (joint : Joint) : List Side → List LaunchAttempt
  | [] => []
  | turn :: turns =>
    let next := joint.move calls turn
    (if turn = side then next.host.launches.drop joint.host.launches.length else []) ++
      attempts side next turns

def Finished (joint : Joint) : Prop := ∀ side, ∃ result, joint.progress side = .ended result

/-- An attempt without the files that it finds. -/
def outline (attempt : LaunchAttempt) : LaunchRequest × Option ProcessCall := (attempt.request, attempt.call)

private theorem map_outline_attemptWith (files : FileSystem) (made : List (LaunchRequest × Option ProcessCall)) :
    (made.map (Call.attemptWith files)).map outline = made := by
  rw [List.map_map]
  exact List.map_id made

/-- Each call has come as far as it would alone in as many steps, and what the host has beyond the files of
the one call is at the place of the other one. -/
structure Tracks (host : Host) (count : Side → Nat) (joint : Joint) : Prop where
  progress : ∀ side, joint.progress side = ((calls side).alone host (count side)).1
  beside : ∀ side, AgreesBut ((calls side.other).place? host.files)
    ((calls side).alone host (count side)).2.files joint.host.files

variable {calls} {host : Host} {count : Side → Nat} {joint : Joint}

theorem tracks_start (calls : Side → Call) (host : Host) : Tracks calls host (fun _ => 0) (start host) :=
  ⟨fun _ => rfl, fun _ => .refl _ _⟩

variable (valid : ∀ side, ∃ given, Config.readExecution given = .ok (calls side).executor.settings)
  (apart : ∀ side, (calls side).Apart (calls side.other) host.files)
include valid apart

private theorem place?_ne (side : Side) {files : FileSystem} (same : host.files.SameDirectories files)
    (location : Location) (found : (calls side).place? files = some location) :
    (calls side.other).place? host.files ≠ some location := by
  rw [Call.place?_of_sameDirectories same] at found
  exact (apart side).place?_ne (valid side) (valid side.other) found

theorem Tracks.move (tracks : Tracks calls host count joint) (turn : Side) :
    Tracks calls host (Function.update count turn (count turn + 1)) (joint.move calls turn) ∧
      ∃ made : List (LaunchRequest × Option ProcessCall),
        ((calls turn).alone host (count turn + 1)).2.launches.map outline =
          ((calls turn).alone host (count turn)).2.launches.map outline ++ made ∧
        (joint.move calls turn).host.launches =
          joint.host.launches ++ made.map (Call.attemptWith joint.host.files) ∧
        ∀ one ∈ made, (calls turn).FindsCode (Call.attemptWith joint.host.files one) := by
  obtain ⟨reached, changes⟩ := (calls turn).reached_alone host (count turn)
  have beside := tracks.beside turn
  have elsewhere := place?_ne valid apart turn changes.same
  obtain ⟨alike, agrees, made, launches, launchesShared, finds⟩ :=
    reached.step_beside (valid turn) beside elsewhere
  have changesShared := (reached.of_agreesBut beside elsewhere).step.2
  rw [Call.place?_of_sameDirectories (changes.same.trans beside.same)] at changesShared
  have moved : joint.move calls turn =
      ⟨Function.update joint.progress turn ((calls turn).alone host (count turn + 1)).1,
        ((calls turn).step ((calls turn).alone host (count turn)).1 joint.host).2⟩ := by
    rw [Joint.move, tracks.progress turn]
    simp only [alike, Call.alone]
  rw [moved]
  refine ⟨⟨?_, ?_⟩, made, ?_, launchesShared, finds⟩
  · intro side
    by_cases own : side = turn
    · subst own
      simp
    · simp [own, tracks.progress side]
  · intro side
    rcases side.eq_or_eq_other turn with rfl | ⟨rfl, swap⟩
    · rw [Function.update_self]
      exact agrees
    · -- The other call has not moved, and all that has changed is at the place of this one.
      have other : turn.other ≠ turn := by cases turn <;> decide
      have kept := tracks.beside turn.other
      rw [← swap] at kept ⊢
      simp only [Function.update_of_ne other]
      exact kept.trans changesShared
  · have whole : ((calls turn).alone host (count turn + 1)).2.launches = _ := launches
    rw [whole, List.map_append, map_outline_attemptWith]

theorem Tracks.play (tracks : Tracks calls host count joint) (turns : List Side) :
    Tracks calls host (fun side => count side + turns.count side) (joint.play calls turns) ∧
      ∀ side, ((calls side).alone host (count side + turns.count side)).2.launches.map outline =
          ((calls side).alone host (count side)).2.launches.map outline ++
            (joint.attempts calls side turns).map outline ∧
        ∀ attempt ∈ joint.attempts calls side turns, (calls side).FindsCode attempt := by
  induction turns generalizing count joint with
  | nil => exact ⟨tracks, fun side => ⟨by simp [attempts], by simp [attempts]⟩⟩
  | cons turn turns ih =>
    obtain ⟨next, made, launches, launchesShared, finds⟩ := tracks.move valid apart turn
    obtain ⟨last, later⟩ := ih next
    have counts : (fun side => Function.update count turn (count turn + 1) side + turns.count side) =
        fun side => count side + (turn :: turns).count side := by
      funext side
      by_cases own : side = turn
      · subst own
        rw [Function.update_self, List.count_cons_self]
        omega
      · rw [Function.update_of_ne own, List.count_cons_of_ne (Ne.symm own)]
    rw [counts] at last
    refine ⟨last, fun side => ?_⟩
    obtain ⟨launchesLater, findsLater⟩ := later side
    rw [congrFun counts side] at launchesLater
    have madeNow : (joint.move calls turn).host.launches.drop joint.host.launches.length =
        made.map (Call.attemptWith joint.host.files) := by
      rw [launchesShared, List.drop_left]
    rw [attempts]
    by_cases own : turn = side
    · subst own
      rw [if_pos rfl, madeNow, List.map_append, launchesLater, Function.update_self, launches,
        map_outline_attemptWith, List.append_assoc]
      refine ⟨rfl, ?_⟩
      · intro attempt member
        rcases List.mem_append.mp member with now | after
        · obtain ⟨one, listed, rfl⟩ := List.mem_map.mp now
          exact finds one listed
        · exact findsLater attempt after
    · rw [if_neg own, List.nil_append, launchesLater, Function.update_of_ne (Ne.symm own)]
      exact ⟨rfl, findsLater⟩

omit valid apart in
private theorem Tracks.ended (tracks : Tracks calls host count joint) (finished : joint.Finished)
    (side : Side) : (calls side).alone host (count side) =
      (.ended ((calls side).run host).1, ((calls side).run host).2) := by
  obtain ⟨result, ended⟩ := finished side
  rw [tracks.progress side] at ended
  exact Call.alone_of_ended ended

/-- What the files are in the end does not depend on the order of the steps. -/
theorem Tracks.same_files {count' : Side → Nat} {joint' : Joint} (tracks : Tracks calls host count joint)
    (tracks' : Tracks calls host count' joint') (finished : joint.Finished) (finished' : joint'.Finished) :
    AgreesBut none joint.host.files joint'.host.files := by
  have kept := (tracks.beside .first).same
  have kept' := (tracks'.beside .first).same
  rw [tracks.ended finished] at kept
  rw [tracks'.ended finished'] at kept'
  refine ⟨kept.symm.trans kept', fun location _ => ?_⟩
  -- Each place belongs to one of the calls at most, and the other one decides nothing there.
  have decided (side : Side) (free : (calls side.other).place? host.files ≠ some location) :
      joint'.host.files.entryAt? location = joint.host.files.entryAt? location := by
    have here := (tracks.beside side).entryAt? location free
    have there := (tracks'.beside side).entryAt? location free
    rw [tracks.ended finished] at here
    rw [tracks'.ended finished'] at there
    exact there.trans here.symm
  by_cases own : (calls .first).place? host.files = some location
  · exact decided .first (place?_ne valid apart .first (.refl _) location own)
  · exact decided .second own

omit valid apart

private theorem play_append (joint : Joint) (turns more : List Side) :
    joint.play calls (turns ++ more) = (joint.play calls turns).play calls more := by
  induction turns generalizing joint with
  | nil => rfl
  | cons turn turns ih => exact ih _

private theorem play_replicate (calls : Side → Call) {side : Side} (begun : joint.progress side = .begun) (steps : Nat) :
    joint.play calls (List.replicate steps side) =
      ⟨Function.update joint.progress side ((calls side).alone joint.host steps).1,
        ((calls side).alone joint.host steps).2⟩ := by
  induction steps with
  | zero =>
    rw [Call.alone, ← begun, Function.update_eq_self]
    rfl
  | succ steps ih =>
    rw [List.replicate_succ', play_append, ih, Joint.play, Joint.play, Joint.move]
    simp only [Function.update_self, Function.update_idem, Call.alone]

def oneAfterOther (side : Side) : List Side := List.replicate 4 side ++ List.replicate 4 side.other

private theorem play_oneAfterOther (calls : Side → Call) (host : Host) (side : Side) :
    let last := (calls side.other).run ((calls side).run host).2
    let joint := (start host).play calls (oneAfterOther side)
    joint.Finished ∧ joint.progress side.other = .ended last.1 ∧ joint.host = last.2 := by
  have differ : side.other ≠ side := by cases side <;> decide
  have untouched : (start host).progress side = .begun := rfl
  have middle := play_replicate calls untouched 4
  rw [Call.alone_four] at middle
  have begun : ((start host).play calls (List.replicate 4 side)).progress side.other = .begun := by
    rw [middle]
    exact Function.update_of_ne differ _ _
  have ends := play_replicate calls begun 4
  rw [← play_append, Call.alone_four, middle] at ends
  intro last joint
  have whole : joint = _ := ends
  rw [whole]
  refine ⟨fun each => ?_, Function.update_self _ _ _, rfl⟩
  rcases each.eq_or_eq_other side with rfl | ⟨rfl, _⟩
  · exact ⟨_, (Function.update_of_ne differ.symm _ _).trans (Function.update_self _ _ _)⟩
  · exact ⟨_, Function.update_self _ _ _⟩

/-- Two calls with accepted settings that are apart take their steps in any order. Each has ended after four
steps of its own; when both have, each has the result that it has alone and after the other one, it has
attempted the same, always with its whole code in its file, and the files are as they are when the calls are
made one after the other. -/
theorem interleaving_undisturbed (calls : Side → Call) (host : Host)
    (valid : ∀ side, ∃ given, Config.readExecution given = .ok (calls side).executor.settings)
    (apart : (calls .first).Apart (calls .second) host.files) (turns : List Side) :
    let joint := (start host).play calls turns
    (∀ side, 4 ≤ turns.count side → ∃ result, joint.progress side = .ended result) ∧
    (joint.Finished → ∀ side,
      joint.progress side = .ended ((calls side).run host).1 ∧
      ((calls side).run ((calls side.other).run host).2).1 = ((calls side).run host).1 ∧
      ((calls side).run host).2.launches.map outline =
        host.launches.map outline ++ ((start host).attempts calls side turns).map outline ∧
      (∀ attempt ∈ (start host).attempts calls side turns, (calls side).FindsCode attempt) ∧
      AgreesBut none joint.host.files ((calls side.other).run ((calls side).run host).2).2.files) := by
  intro joint
  have apartBoth : ∀ side, (calls side).Apart (calls side.other) host.files := by
    intro side
    cases side with
    | first => exact apart
    | second => exact apart.symm
  obtain ⟨tracks, made⟩ := (tracks_start calls host).play valid apartBoth turns
  simp only [Nat.zero_add] at tracks made
  refine ⟨fun side enough => ?_, fun finished side => ?_⟩
  · have ended := (calls side).alone_of_four_le host enough
    exact ⟨_, (tracks.progress side).trans (congrArg Prod.fst ended)⟩
  · have ended := tracks.ended finished side
    obtain ⟨launches, finds⟩ := made side
    rw [ended] at launches
    refine ⟨(tracks.progress side).trans (congrArg Prod.fst ended), ?_, launches, finds, ?_⟩
    · -- The other call goes first.
      obtain ⟨finishedThen, result, _⟩ := play_oneAfterOther calls host side.other
      have tracksThen := ((tracks_start calls host).play valid apartBoth (oneAfterOther side.other)).1
      have back : side.other.other = side := by cases side <;> rfl
      rw [back, tracksThen.progress side, tracksThen.ended finishedThen] at result
      exact (Call.Progress.ended.inj result).symm
    · obtain ⟨finishedThen, _, files⟩ := play_oneAfterOther calls host side
      have tracksThen := ((tracks_start calls host).play valid apartBoth (oneAfterOther side)).1
      rw [← files]
      exact tracks.same_files valid apartBoth tracksThen finished finishedThen

/-- Two calls in one directory, the name of one file being the beginning of the other one's. Both files are
open at once, and the second call finds no terminal. -/
theorem interleaving_undisturbed_shared_directory :
    let call (tempFilePrefix code : String) (fault : Option LaunchFault) : Call :=
      ⟨⟨{ ExecutionSettings.standard with tempFilePrefix }, Language.all⟩, ⟨none, fault⟩, .text code,
        some "powershell", some "."⟩
    let calls : Side → Call
      | .first => call "a" "one" none
      | .second => call "a.ps1" "two" (some (.system .notFound "wt.exe"))
    let host : Host := ⟨.empty ["w"], [], []⟩
    let turns : List Side := [.first, .second, .first, .second, .second, .first, .second, .first]
    (∀ side, ∃ given, Config.readExecution given = .ok (calls side).executor.settings) ∧
    (calls .first).Apart (calls .second) host.files ∧ (∀ side, 4 ≤ turns.count side) ∧
    ((start host).play calls turns).Finished ∧
    ((start host).play calls turns).progress .first = .ended (.ok ()) ∧
    ((start host).play calls turns).progress .second = .ended (.error (.launch "wt.exe" .notFound)) ∧
    (∀ attempt ∈ (start host).attempts calls .second turns, (calls .second).FindsCode attempt) ∧
    ((start host).play calls turns).host.files.entryAt? ["w", "a.ps1"] = some (.file "one".toUTF8) := by
  intro call calls host turns
  have valid : ∀ side, ∃ given, Config.readExecution given = .ok (calls side).executor.settings := by
    intro side
    cases side with
    | first => exact ⟨.map [(.text "temp_file_prefix", .text "a")], rfl⟩
    | second => exact ⟨.map [(.text "temp_file_prefix", .text "a.ps1")], rfl⟩
  have apart : (calls .first).Apart (calls .second) host.files := .inr (by decide)
  have enough : ∀ side, 4 ≤ turns.count side := by
    intro side
    cases side <;> decide
  obtain ⟨ends, undisturbed⟩ := interleaving_undisturbed calls host valid apart turns
  have finished : ((start host).play calls turns).Finished := fun side => ends side (enough side)
  obtain ⟨first, _, _, _, files⟩ := undisturbed finished .first
  obtain ⟨second, _, _, finds, _⟩ := undisturbed finished .second
  have one : ((calls .first).run host).1 = .ok () := by decide
  have two : ((calls .second).run host).1 = .error (.launch "wt.exe" .notFound) := by decide
  rw [one] at first
  rw [two] at second
  refine ⟨valid, apart, enough, finished, first, second, finds, ?_⟩
  rw [← files.entryAt? ["w", "a.ps1"] nofun]
  decide

end Joint
end Scriptlet
