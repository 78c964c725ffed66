import Scriptlet.CommandLine.Program
import Scriptlet.Proofs.Log.Journal

/-!
Actions by the way they end. Two in a row return if both do. To look for a language and to talk with the user starts
no terminal and changes no file but by records of the log, however that ends.
-/
namespace Scriptlet.CommandLine

/-- What talk with the user changes at most: there may be more records, and unless everything is accepted, something
may be printed. -/
structure Session.Continues (acceptAll : Bool) (before after : Session) : Prop where
  files : before.journal.Reaches before.host.files after.host.files
  launches : after.host.launches = before.host.launches
  sink : after.sink = before.sink
  printed : acceptAll = true → after.printed = before.printed

namespace Session.Continues
variable {acceptAll : Bool} {before after : Session}

theorem refl (acceptAll : Bool) (session : Session) : session.Continues acceptAll session :=
  ⟨.refl _ _, rfl, rfl, fun _ => rfl⟩

theorem journal (still : before.Continues acceptAll after) : after.journal = before.journal := by
  simp only [Session.journal, still.sink]

theorem trans {last : Session} (first : before.Continues acceptAll after) (second : after.Continues acceptAll last) :
    before.Continues acceptAll last where
  files := first.files.trans (first.journal ▸ second.files)
  launches := second.launches.trans first.launches
  sink := second.sink.trans first.sink
  printed silent := (second.printed silent).trans (first.printed silent)

end Session.Continues

namespace Action
variable {α β : Type} {before after : Session} {value : α}

def outcome (action : Action α) (before : Session) : Except Ending α × Session := action.run before

@[simp] theorem outcome_pure (value : α) : (pure value : Action α).outcome before = (.ok value, before) := rfl

@[simp] theorem outcome_throw (ending : Ending) :
    (throw ending : Action α).outcome before = (.error ending, before) := rfl

@[simp] theorem outcome_get : (get : Action Session).outcome before = (.ok before, before) := rfl

@[simp] theorem outcome_set : (set after : Action PUnit).outcome before = (.ok ⟨⟩, after) := rfl

@[simp] theorem outcome_modify (change : Session → Session) :
    (modify change : Action PUnit).outcome before = (.ok ⟨⟩, change before) := rfl

theorem outcome_bind (first : Action β) (next : β → Action α) :
    (first >>= next).outcome before =
      match first.outcome before with
      | (.ok middle, between) => (next middle).outcome between
      | (.error ending, between) => (.error ending, between) := by
  have step : (first >>= next).outcome before =
      (ExceptT.bindCont next (first.outcome before).1 : StateM Session _) (first.outcome before).2 := rfl
  rw [step]
  rcases first.outcome before with ⟨ending | middle, between⟩ <;> rfl

def Returns (action : Action α) (before : Session) (value : α) (after : Session) : Prop :=
  action.outcome before = (.ok value, after)

theorem returns_bind_iff {first : Action β} {next : β → Action α} :
    (first >>= next).Returns before value after ↔
      ∃ middle between, first.Returns before middle between ∧ (next middle).Returns between value after := by
  simp only [Returns, outcome_bind]
  rcases first.outcome before with ⟨ending | middle, between⟩
  · simp
  · simp [and_assoc]

/-- However the action ends, the session goes on, and an early end is no success. -/
structure IsTalk (acceptAll : Bool) (action : Action α) : Prop where
  continues (before : Session) : before.Continues acceptAll (action.outcome before).2
  fails (before : Session) (ending : Ending) : (action.outcome before).1 = .error ending → ending.exitCode ≠ 0

section
variable {acceptAll : Bool}

theorem IsTalk.of_outcome {action : Action α} {result : Except Ending α} (talk : action.IsTalk acceptAll)
    (ended : action.outcome before = (result, after)) : before.Continues acceptAll after := by
  have continues := talk.continues before
  rwa [ended] at continues

theorem IsTalk.of_failure {action : Action α} {ending : Ending} (talk : action.IsTalk acceptAll)
    (ended : action.outcome before = (.error ending, after)) : ending.exitCode ≠ 0 :=
  talk.fails before ending (congrArg Prod.fst ended)

theorem isTalk_pure (value : α) : (pure value : Action α).IsTalk acceptAll := by
  refine ⟨fun before => ?_, fun before ending ended => ?_⟩
  · rw [outcome_pure]
    exact .refl _ _
  · cases ended

theorem isTalk_throw {ending : Ending} (fails : ending.exitCode ≠ 0) :
    (throw ending : Action α).IsTalk acceptAll := by
  refine ⟨fun before => ?_, fun before other ended => ?_⟩
  · rw [outcome_throw]
    exact .refl _ _
  · cases ended
    exact fails

theorem IsTalk.bind {first : Action β} {next : β → Action α} (leads : first.IsTalk acceptAll)
    (follows : ∀ middle, (next middle).IsTalk acceptAll) : (first >>= next).IsTalk acceptAll := by
  refine ⟨fun before => ?_, fun before ending ended => ?_⟩
  · rw [outcome_bind]
    rcases led : first.outcome before with ⟨ending | middle, between⟩
    · exact leads.of_outcome led
    · exact (leads.of_outcome led).trans ((follows middle).continues between)
  · rw [outcome_bind] at ended
    rcases led : first.outcome before with ⟨early | middle, between⟩
    · rw [led] at ended
      cases ended
      exact leads.of_failure led
    · rw [led] at ended
      exact (follows middle).fails between ending ended

theorem isTalk_log (level : LogLevel) (message : String) : (log level message).IsTalk acceptAll :=
  ⟨fun before => ⟨Journal.reaches_withLog before.journal before.host level message, rfl, rfl, fun _ => rfl⟩,
    fun _ _ ended => nomatch (show Except.ok () = Except.error _ from ended)⟩

theorem isTalk_answerTo (asks : acceptAll = false) (question : String) (accept : String → Except String α) :
    (answerTo question accept).IsTalk acceptAll := by
  subst asks
  refine ⟨fun before => ?_, fun before ending ended => ?_⟩
  · simp only [answerTo, outcome_bind, outcome_get, outcome_set]
    split
    · exact ⟨.refl _ _, rfl, rfl, nofun⟩
    · split <;> exact ⟨.refl _ _, rfl, rfl, nofun⟩
  · simp only [answerTo, outcome_bind, outcome_get, outcome_set] at ended
    split at ended
    · cases ended
    · split at ended <;> cases ended <;> exact Nat.one_ne_zero

end

end Action
end Scriptlet.CommandLine
