import StepFlow.Command.Invocation
import StepFlow.Proofs.Outcome

/-! What one more switch does to a command line. Main statement: with the switch for writing after
the name of its task, a command line asks for the same, but to be written. -/
namespace StepFlow.Command

open Outcome

def writeSwitch : String := "--write"

namespace Given

variable {given : Given} {name : String} {words : List Word}

/-- The same with the switch for writing in front of the options. -/
def withWrite (given : Given) : Given :=
  { given with options := ("write", "") :: given.options }

/-- It excludes no routing option. -/
theorem excludes_withWrite : given.withWrite.excludes name = given.excludes name := rfl

/-- No task looks at it. -/
theorem task_withWrite {task : TaskName} : given.withWrite.task task = given.task task := by
  cases task <;> rfl

theorem add_withWrite {value : String} :
    given.withWrite.add name value = (given.add name value).map withWrite := by
  unfold add
  rw [excludes_withWrite]
  split <;> rfl

theorem addValue_withWrite {choices : List String} {value : String} :
    given.withWrite.addValue name choices value = (given.addValue name choices value).map withWrite := by
  unfold addValue
  split
  · exact add_withWrite
  · rfl

theorem map_bind_withWrite {x : Except Stop Given} {f : Given → Except Stop Given}
    (same : ∀ given, f given.withWrite = (f given).map withWrite) :
    (x.map withWrite >>= f) = (x >>= f).map withWrite := by
  cases x with
  | error => rfl
  | ok given => exact same given

theorem ofWords_withWrite : given.withWrite.ofWords words = (given.ofWords words).map withWrite := by
  fun_induction ofWords given words with
  | case1 => rfl
  | case2 given text words first ih | case6 given text words first ih =>
    rw [ofWords]
    exact (if_pos first).trans ih
  | case3 given text words first ih | case7 given text words first ih =>
    rw [ofWords]
    exact (if_neg first).trans ih
  | case4 given text words apart first ih =>
    rw [ofWords]
    · exact (if_pos first).trans ih
    · exact apart
  | case5 given text words apart first ih =>
    rw [ofWords]
    · exact (if_neg first).trans ih
    · exact apart
  | case8 given words apart ih =>
    rw [ofWords]
    · exact ih
    · exact apart
  | case9 given words ih =>
    rw [ofWords]
    exact ih
  | case10 | case11 | case13 => rfl
  | case12 given name words ih =>
    simp only [ofWords, add_withWrite]
    exact map_bind_withWrite ih
  | case14 given name choices value words ih | case15 given name choices value words ih =>
    simp only [ofWords, addValue_withWrite]
    exact map_bind_withWrite ih
  | case16 given name choices words apart =>
    rw [ofWords]
    · rfl
    · exact apart

end Given

namespace Invocation

variable {task : TaskName} {name : String} {texts : List String} {words : List Word} {invocation : Invocation}

theorem ofText_writeSwitch : Word.ofText task.forms writeSwitch = .ok (.option (.flag "write") none) := by
  cases task <;> decide

theorem ofTask_writeSwitch (asked : ofTask task texts = .ok invocation) :
    ofTask task (writeSwitch :: texts) = .ok { invocation with write := true } := by
  obtain ⟨words, isWords, rest⟩ := bind_eq_ok.mp asked
  obtain ⟨given, isGiven, rest⟩ := bind_eq_ok.mp rest
  obtain ⟨made, isMade, rest⟩ := bind_eq_ok.mp rest
  have wordsToo : Word.ofTexts task.forms (writeSwitch :: texts) =
      .ok (.option (.flag "write") none :: words) := by
    rw [Word.ofTexts, if_neg (by decide), ofText_writeSwitch, isWords]
    rfl
  have givenToo : Given.nothing.ofWords (.option (.flag "write") none :: words) = .ok given.withWrite :=
    Given.ofWords_withWrite.trans (by rw [isGiven]; rfl)
  split at rest
  · rename_i flow isFlow whole
    obtain rfl := pure_eq_ok.mp rest
    refine bind_eq_ok.mpr ⟨_, wordsToo, bind_eq_ok.mpr ⟨_, givenToo, bind_eq_ok.mpr
      ⟨made, Given.task_withWrite.trans isMade, ?_⟩⟩⟩
    rw [show given.withWrite.flow = some flow from isFlow,
      show given.withWrite.leftOver = false from whole]
    rfl
  · cases rest

/-- A command line that is not understood up to its task asks for nothing. -/
theorem ofOuterWords_ne_ok : ofOuterWords false words texts ≠ .ok invocation := by
  induction words generalizing texts with
  | nil => exact nofun
  | cons word words ih =>
    cases word with
    | plain name =>
      cases texts with
      | nil => exact nofun
      | cons text texts =>
        rw [ofOuterWords]
        split
        · intro asked
          obtain ⟨asks, isTask, rest⟩ := bind_eq_ok.mp asked
          cases rest
        · exact nofun
    | separator => exact nofun
    | option switch attached => cases switch <;> exact nofun
    | unknown =>
      cases texts with
      | nil => exact nofun
      | cons text texts => exact ih

theorem ofArguments_writeSwitch (asked : ofArguments (name :: texts) = .ok invocation) :
    ofArguments (name :: writeSwitch :: texts) = .ok { invocation with write := true } := by
  obtain ⟨words, isWords, rest⟩ := bind_eq_ok.mp asked
  rw [Word.ofTexts] at isWords
  split at isWords
  · cases isWords
    cases rest
  rename_i notSeparator
  obtain ⟨word, isWord, isWords⟩ := bind_eq_ok.mp isWords
  obtain ⟨others, areOthers, isWords⟩ := bind_eq_ok.mp isWords
  obtain rfl := pure_eq_ok.mp isWords
  have wordsToo : Word.ofTexts outerForms (name :: writeSwitch :: texts) = .ok (word :: .unknown :: others) := by
    rw [Word.ofTexts, if_neg notSeparator, isWord, Word.ofTexts, if_neg (by decide),
      show Word.ofText outerForms writeSwitch = .ok .unknown by decide, areOthers]
    rfl
  refine bind_eq_ok.mpr ⟨_, wordsToo, ?_⟩
  cases word with
  | plain text =>
    rw [ofOuterWords] at rest ⊢
    split at rest
    · obtain ⟨asks, isTask, same⟩ := bind_eq_ok.mp rest
      obtain rfl := pure_eq_ok.mp same
      exact bind_eq_ok.mpr ⟨_, ofTask_writeSwitch isTask, rfl⟩
    · cases rest
  | separator => cases rest
  | option switch attached =>
    cases switch <;> cases rest
  | unknown => exact absurd rest ofOuterWords_ne_ok

end Invocation

end StepFlow.Command
