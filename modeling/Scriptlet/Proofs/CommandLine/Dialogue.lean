import Scriptlet.Proofs.CommandLine.Action
import Scriptlet.Proofs.Config.Loading
import Scriptlet.Proofs.Detection.Results
import Scriptlet.Proofs.Execution.Call

/-!
What the user is asked before a text runs. The languages that the settings name are the ones that are ranked,
offered and accepted, so whatever the prompt takes for an answer is a language that can run.
-/
namespace Scriptlet.CommandLine
open Scriptlet.CommandLine.Action

/-- One of the lines is the first that is accepted; what it answers, and the lines after it. -/
def Answers {α : Type} (accept : String → Except String α) (lines : List String) (answer : α)
    (left : List String) : Prop :=
  ∃ refused line, lines = refused ++ line :: left ∧ accept line = .ok answer ∧
    ∀ other ∈ refused, ∀ answer, accept other ≠ .ok answer

section
variable {α : Type} {accept : String → Except String α} {lines : List String}

theorem ask_cases (question : String) (accept : String → Except String α) (lines : List String) :
    let asked := ask question accept lines
    (∃ answer, asked.answer = some answer ∧ Answers accept lines answer asked.lines) ∨ asked.answer = none := by
  induction lines with
  | nil => exact .inr rfl
  | cons line rest ih =>
    cases taken : accept line with
    | ok answer =>
      rw [ask, taken]
      exact .inl ⟨answer, rfl, [], line, rfl, taken, nofun⟩
    | error complaint =>
      rw [ask, taken]
      refine ih.imp_left fun ⟨answer, answered, refused, later, parts, accepted, others⟩ => ?_
      refine ⟨answer, answered, line :: refused, later, congrArg (line :: ·) parts, accepted, ?_⟩
      rintro other member answer same
      rcases List.mem_cons.mp member with rfl | inside
      · rw [taken] at same
        cases same
      · exact others other inside answer same

theorem answerTo_cases (question : String) (accept : String → Except String α) (before : Session) :
    let ended := (answerTo question accept).outcome before
    (∃ answer, ended.1 = .ok answer ∧ Answers accept before.input.lines answer ended.2.input.lines) ∨
      ended.1 = .error .aborted ∨ ended.1 = .error (.escaped .undecodableInput) := by
  have asked := ask_cases question accept before.input.lines
  simp only [answerTo, outcome_bind, outcome_get, outcome_set]
  rcases asked with ⟨answer, answered, answers⟩ | unanswered
  · rw [answered]
    exact .inl ⟨answer, rfl, answers⟩
  · rw [unanswered]
    dsimp only
    split
    · exact .inr (.inr rfl)
    · exact .inr (.inl rfl)

end

variable {settings : Settings} {code : String} {acceptAll : Bool} {given : Option String} {lines left : List String}
variable {before after : Session} {name : String}

def Suggests (settings : Settings) (code : String) (choice : LanguageChoice) : Prop :=
  ∃ detector, Detector.ofLanguages settings.detection.languages = .ok detector ∧
    chooseLanguage (detector.detect (some code)) settings.selector settings.detection.confidence = .ok choice

/-- The language that a text is to run in: a given one, the suggested one, or what the lines of the input
answer; with the lines that are left. -/
inductive Picks (settings : Settings) (code : String) (acceptAll : Bool) (lines : List String) :
    Option String → String → List String → Prop
  | given (name : String) : Picks settings code acceptAll lines (some name) name lines
  | suggested {choice : LanguageChoice} (suggests : Suggests settings code choice)
      (hidden : choice.showSelector = false ∨ acceptAll = true) :
      Picks settings code acceptAll lines none choice.suggested.id lines
  | answered {choice : LanguageChoice} {name : String} {left : List String}
      (suggests : Suggests settings code choice) (shown : choice.showSelector = true ∧ acceptAll = false)
      (answers : Answers (Choice.accept (choice.candidates.map Language.id) choice.suggested.id) lines name left) :
      Picks settings code acceptAll lines none name left

/-- Nothing is to be confirmed, or the lines of the input say yes. -/
def Agrees (settings : Settings) (acceptAll : Bool) (lines : List String) : Prop :=
  settings.selector.confirm = false ∨ acceptAll = true ∨ ∃ left, Answers Confirmation.accept lines true left

theorem suggests_of_isValid (valid : settings.IsValid) (code : String) :
    ∃ choice, Suggests settings code choice ∧ choice.candidates.Perm settings.detection.languages ∧
      choice.candidates.head? = some choice.suggested := by
  let detector : Detector := ⟨settings.detection.languages, valid.detection.nonempty, valid.detection.nodup⟩
  have made : Detector.ofLanguages settings.detection.languages = .ok detector := by
    rw [Detector.ofLanguages, dif_pos valid.detection.nonempty, dif_pos valid.detection.nodup]
  have listed := detector.map_language_detect (some code)
  have some := detector.detect_ne_nil (.some code)
  cases results : detector.detect (.some code) with
  | nil => exact absurd results some
  | cons top rest =>
    rw [results] at listed
    refine ⟨_, ⟨detector, made, by rw [results]; rfl⟩, listed, rfl⟩

theorem exists_host_detectorFor (settings : Settings) (code : String) (before : Session) :
    ∃ host, ((detectorFor settings code).outcome before).2 = { before with host } := by
  rw [detectorFor]
  split
  next => exact ⟨before.host, rfl⟩
  next =>
    dsimp only
    split
    · exact ⟨_, rfl⟩
    · exact ⟨before.host, rfl⟩

theorem isTalk_detectorFor (settings : Settings) (code : String) : (detectorFor settings code).IsTalk acceptAll := by
  rw [detectorFor]
  split
  next => exact isTalk_throw Nat.one_ne_zero
  next detector _ =>
    dsimp only
    split
    next => exact (isTalk_log _ _).bind fun _ => isTalk_pure detector
    next => exact isTalk_pure detector

theorem isTalk_languageFor (settings : Settings) (code : String) (given : Option String) :
    (languageFor settings code given acceptAll).IsTalk acceptAll := by
  cases given with
  | some language => exact isTalk_pure language
  | none =>
    refine (isTalk_detectorFor settings code).bind fun detector => ?_
    dsimp only
    split
    · exact isTalk_throw Nat.one_ne_zero
    · split
      next shown => exact isTalk_answerTo (by simpa using (Bool.and_eq_true_iff.mp shown).2) _ _
      next => exact isTalk_pure _

theorem isTalk_confirmRun (settings : Settings) (file : Path) (language : String) (directory : Path) :
    (confirmRun settings file language directory acceptAll).IsTalk acceptAll := by
  unfold confirmRun
  split
  next asks =>
    refine (isTalk_answerTo (by simpa using (Bool.and_eq_true_iff.mp asks).2) _ _).bind fun agreed => ?_
    cases agreed
    · exact isTalk_throw Nat.one_ne_zero
    · exact isTalk_pure _
  next => exact isTalk_pure _

theorem detectorFor_of_ofLanguages {detector : Detector}
    (made : Detector.ofLanguages settings.detection.languages = .ok detector) :
    ((detectorFor settings code).outcome before).1 = .ok detector := by
  rw [detectorFor, made]
  dsimp only
  split <;> rfl

/-- With valid settings a language is found, unless the input ends before it is answered. -/
theorem languageFor_cases (valid : settings.IsValid) (code : String) (given : Option String) (acceptAll : Bool)
    (before : Session) :
    let ended := (languageFor settings code given acceptAll).outcome before
    (∃ name, ended.1 = .ok name ∧
        Picks settings code acceptAll before.input.lines given name ended.2.input.lines) ∨
      ended.1 = .error .aborted ∨ ended.1 = .error (.escaped .undecodableInput) := by
  cases given with
  | some name => exact .inl ⟨name, rfl, .given name⟩
  | none =>
    obtain ⟨choice, suggests, _⟩ := suggests_of_isValid valid code
    obtain ⟨detector, made, chosen⟩ := suggests
    have found : ((detectorFor settings code).outcome before).1 = .ok detector := detectorFor_of_ofLanguages made
    obtain ⟨host, same⟩ := exists_host_detectorFor settings code before
    simp only [languageFor, chosenLanguage, outcome_bind]
    generalize (detectorFor settings code).outcome before = detected at found same ⊢
    obtain ⟨result, between⟩ := detected
    dsimp only at found same
    subst found
    dsimp only
    rw [chosen]
    dsimp only
    -- The lines of the input are still those of the beginning.
    have sameInput : before.input = between.input := same ▸ rfl
    rw [sameInput]
    split
    next shown =>
      simp only [Bool.and_eq_true, Bool.not_eq_true'] at shown
      refine (answerTo_cases _ _ between).imp_left fun ⟨name, answered, answers⟩ => ⟨name, answered, ?_⟩
      exact .answered ⟨detector, made, chosen⟩ shown answers
    next hidden =>
      have hidden : choice.showSelector = false ∨ acceptAll = true := by
        cases shows : choice.showSelector with
        | false => exact .inl rfl
        | true => exact .inr (by simpa [shows] using hidden)
      exact .inl ⟨_, rfl, .suggested ⟨detector, made, chosen⟩ hidden⟩

theorem agrees_of_confirmRun {file directory : Path} {language : String} {value : Unit}
    (returned : (confirmRun settings file language directory acceptAll).Returns before value after) :
    Agrees settings acceptAll before.input.lines := by
  unfold confirmRun at returned
  split at returned
  next =>
    obtain ⟨agreed, between, answered, returned⟩ := returns_bind_iff.mp returned
    cases agreed with
    | false => cases returned
    | true =>
      rcases answerTo_cases _ Confirmation.accept before with ⟨answer, same, answers⟩ | ended | ended
      · rw [answered] at same answers
        cases same
        exact .inr (.inr ⟨_, answers⟩)
      · rw [answered] at ended
        cases ended
      · rw [answered] at ended
        cases ended
  next silent =>
    cases confirm : settings.selector.confirm with
    | false => exact .inl confirm
    | true => exact .inr (.inl (by simpa [confirm] using silent))

theorem mem_of_accept {names : List String} {default line : String}
    (accepted : Choice.accept names default line = .ok name) : name = default ∨ name ∈ names := by
  unfold Choice.accept at accepted
  split at accepted
  next =>
    cases accepted
    exact .inl rfl
  next =>
    split at accepted
    next choice named =>
      cases accepted
      exact .inr (List.mem_of_find?_eq_some named)
    next => cases accepted

theorem Suggests.unique {choice other : LanguageChoice} (first : Suggests settings code choice)
    (second : Suggests settings code other) : choice = other := by
  obtain ⟨detector, made, chosen⟩ := first
  obtain ⟨_, same, chosen'⟩ := second
  rw [made] at same
  cases same
  rw [chosen] at chosen'
  exact Except.ok.inj chosen'

/-- Without a given language, whatever is picked is the identifier of a candidate. -/
theorem Picks.mem_candidates {choice : LanguageChoice} (suggests : Suggests settings code choice)
    (top : choice.candidates.head? = some choice.suggested) (picks : Picks settings code acceptAll lines none name left) :
    ∃ language ∈ choice.candidates, name = language.id := by
  have first : choice.suggested ∈ choice.candidates := List.mem_of_head? top
  cases picks with
  | suggested also _ =>
    cases suggests.unique also
    exact ⟨_, first, rfl⟩
  | answered also _ answers =>
    cases suggests.unique also
    obtain ⟨_, _, _, accepted, _⟩ := answers
    rcases mem_of_accept accepted with same | listed
    · exact ⟨_, first, same⟩
    · obtain ⟨language, member, same⟩ := List.mem_map.mp listed
      exact ⟨language, member, same.symm⟩

theorem checkLanguage_id {executor : Executor} {language : Language} (listed : language ∈ executor.languages) :
    executor.checkLanguage language.id = .ok language := by
  have marked : Text.isAllBlank language.id.toList = false := by cases language <;> decide
  have parsed : Language.parse? language.id = some language := by cases language <;> decide
  rw [Executor.checkLanguage, marked, parsed]
  dsimp only
  rw [List.contains_iff_mem.mpr listed]
  rfl

variable {executor : Executor} {launcher : Launcher} {language : Language} {text : Value}
variable {directory : Option String} {host : Host} {reason : Precondition} {journal : Journal}

theorem check_of_refused
    (refused : (executor.execute launcher text (some name) directory host journal).1 =
      .error (.precondition reason)) :
    executor.check host.files text (some name) directory = .error (.precondition reason) := by
  unfold Executor.execute at refused
  split at refused
  next error failed =>
    cases refused
    exact failed
  next job _ =>
    unfold Executor.writeTempFile at refused
    dsimp only at refused
    split at refused
    next wrote =>
      split at wrote
      · cases wrote
        cases refused
      · split at wrote <;> cases wrote
        cases refused
    next =>
      unfold Executor.start at refused
      dsimp only at refused
      split at refused <;> cases refused

/-- The language is not what is wrong with a call in a language that is accepted. -/
theorem argument_of_refused (accepted : executor.checkLanguage name = .ok language)
    (refused : (executor.execute launcher text (some name) directory host journal).1 =
      .error (.precondition reason)) :
    reason.argument ≠ "language" := by
  have refused := check_of_refused refused
  have accepts : (Except.ok language).mapError ExecutionError.precondition = .ok language := rfl
  simp only [Executor.check, bind, Except.bind] at refused
  split at refused
  next => cases refused; decide
  next =>
    cases directory with
    | none => cases refused; decide
    | some directory =>
      simp only [accepted, accepts] at refused
      split at refused
      next => cases refused; decide
      next =>
        split at refused
        next => cases refused; decide
        next =>
          split at refused <;> cases refused
          exact (by decide : "working_directory" ≠ "language")

/-- Accepted settings are enough for every text: a detector of their languages ranks all of them, one is
suggested, and the language that a run without a given one arrives at, prompt or not, is one of them and
accepted for running. Only an input that ends before the prompt is answered stops the run here. -/
theorem languages_suffice {entries : List (Value × Value)} {env : Config.Environment}
    (made : Config.settingsFrom entries env = .ok settings) (code : String) :
    ∃ detector choice, Detector.ofLanguages settings.detection.languages = .ok detector ∧
      chooseLanguage (detector.detect (some code)) settings.selector settings.detection.confidence = .ok choice ∧
      choice.candidates.Perm settings.detection.languages ∧ choice.candidates.head? = some choice.suggested ∧
      ∀ acceptAll before, let ended := ((languageFor settings code none acceptAll).outcome before).1
        (ended = .error .aborted ∨ ended = .error (.escaped .undecodableInput)) ∨
        ∃ language ∈ choice.candidates, ended = .ok language.id ∧
          ∀ launcher directory host journal reason,
            ((executorOf settings).execute launcher (.text code) (some language.id) directory host journal).1 =
              .error (.precondition reason) → reason.argument ≠ "language" := by
  obtain ⟨_, _, read⟩ := Config.readSettings_of_settingsFrom made
  have valid := Config.isValid_of_readSettings read
  obtain ⟨choice, ⟨detector, built, chosen⟩, listed, top⟩ := suggests_of_isValid valid code
  refine ⟨detector, choice, built, chosen, listed, top, fun acceptAll before => ?_⟩
  rcases languageFor_cases valid code none acceptAll before with ⟨name, ended, picks⟩ | stopped
  · obtain ⟨language, member, rfl⟩ := picks.mem_candidates ⟨detector, built, chosen⟩ top
    refine .inr ⟨language, member, ended, fun launcher directory host journal reason refused => ?_⟩
    have accepted : (executorOf settings).checkLanguage language.id = .ok language :=
      checkLanguage_id (listed.mem_iff.mp member)
    exact argument_of_refused accepted refused
  · exact .inl stopped

/-- Two languages in another order than usual, a blank text, and an answer that is not the suggested one. -/
theorem languages_suffice_blank_text :
    let entries : List (Value × Value) :=
      [(.text "detection", .map [(.text "languages", .list [.text "LUA", .text " go "])])]
    let before : Session := ⟨⟨.empty [], [], []⟩, ⟨["perl", "Go"], false⟩, none, "", "", false⟩
    ∃ settings, Config.settingsFrom entries .empty = .ok settings ∧ settings.detection.languages = [.lua, .go] ∧
      ((languageFor settings " " none false).outcome before).1 = .ok "go" ∧
      ∀ launcher directory host journal reason,
        ((executorOf settings).execute launcher (.text " ") (some "go") directory host journal).1 =
          .error (.precondition reason) → reason.argument ≠ "language" := by
  intro entries before
  let settings : Settings := { Settings.standard with detection := ⟨[.lua, .go], .standard⟩ }
  have made : Config.settingsFrom entries .empty = .ok settings := by decide +kernel
  obtain ⟨detector, choice, built, chosen, listed, top, total⟩ := languages_suffice made " "
  have answered : ((languageFor settings " " none false).outcome before).1.toOption = some "go" := by
    decide +kernel
  rcases total false before with (stopped | stopped) | ⟨language, _, ended, accepted⟩
  · rw [stopped] at answered
    cases answered
  · rw [stopped] at answered
    cases answered
  · rw [ended] at answered
    have named : language.id = "go" := Option.some.inj answered
    rw [named] at ended accepted
    exact ⟨settings, made, rfl, ended, accepted⟩

end Scriptlet.CommandLine
