import MeshAlarm.Proofs.Emulator.Shell
import MeshAlarm.Proofs.Text

/-!
# Conversations end at the first quit

A line quits if its first word is a q, small or capital. The shell of an emulator takes a turn with
each line up to the first that quits: it writes the prompt, reads the line and responds. The lines
behind that one are not looked at. If no line quits, then every line has its turn, and a last prompt
has no line to read.

## Main definitions

* `Shell.Quits`: the lines that quit
* `Shell.upToQuit`: the lines up to the first that quits
* `Shell.turns`: what is written in the turns with lines

## Main results

* `Shell.head?_wordsOf_eq_q_iff`: the shell takes the lines that quit as the quit
* `Shell.converse_upToQuit`: the lines behind the first that quits are not looked at
* `Shell.effect_converse`: what a conversation comes to
-/

namespace MeshAlarm.Shell

variable {c : Emulator.Configuration} {e : Emulator}

/-! ### Lines that quit -/

/-- The first word of a line is a q, small or capital. -/
def Quits (line : String) : Prop :=
  (Text.words line.toList).head? = some ['q'] ∨ (Text.words line.toList).head? = some ['Q']

instance (line : String) : Decidable (Quits line) :=
  inferInstanceAs (Decidable (_ ∨ _))

/-- Words are read in capitals, and among these only the quit is a Q. -/
theorem head?_wordsOf_eq_q_iff {line : String} : (wordsOf line).head? = some "Q" ↔ Quits line := by
  rw [wordsOf, Text.words_upperCase, Quits]
  cases Text.words line.toList with
  | nil => simp
  | cons word words =>
    have hq : String.ofList (Text.upperCase word) = "Q" ↔ Text.upperCase word = ['Q'] :=
      (String.ofList_inj : _ = String.ofList ['Q'] ↔ _)
    simp only [List.map_cons, List.head?_cons, Option.some.injEq, hq, Text.upperCase_eq_q_iff]

theorem ofLine_eq_quit_iff {line : String} : Command.ofLine line = .quit ↔ Quits line :=
  Command.ofWords_eq_quit_iff.trans head?_wordsOf_eq_q_iff

/-- The lines up to the first that quits, and all of them if none does. -/
def upToQuit : List String → List String
  | [] => []
  | line :: lines => if Quits line then [line] else line :: upToQuit lines

/-! ### Turns -/

/-- What is written in the turns with lines: the prompt, and the response to the line in the state
that the lines before it have left. -/
def turns (e : Emulator) : List String → List String
  | [] => []
  | line :: lines =>
    let response := (respond line).run e
    prompt :: response.trace.emissions ++ turns response.after lines

/-- A line that quits is echoed, in every state. -/
theorem respond_of_quits {line : String} (h : Quits line) :
    respond line = (do Emulator.print s!"Got command {line}"; return false) := by
  rw [respond, ofLine_eq_quit_iff.2 h]
  rfl

/-- The lines behind the first that quits are not looked at. -/
theorem converse_upToQuit (lines : List String) : converse (upToQuit lines) = converse lines := by
  induction lines with
  | nil => rfl
  | cons line lines ih =>
    rw [upToQuit]
    split
    · next h =>
      simp only [converse, respond_of_quits h, bind_assoc, pure_bind]
      rfl
    · simp only [converse, ih]

section Configured

variable (hc : e.Configured c) (hv : 1 ≤ c.version) (hid : Bytes.Fits c.nodeId)

include hc hv hid

theorem effect_respond (line : String) : (respond line).effect e =
    ⟨.ok (decide (¬ Quits line)), ((respond line).run e).after,
      ((respond line).run e).trace.emissions⟩ := by
  have hanswered := (responds hc hv hid line).answered
  simp only [ne_eq, head?_wordsOf_eq_q_iff] at hanswered
  exact Act.effect_of_result hanswered

theorem configured_respond (line : String) : ((respond line).run e).after.Configured c := by
  have h := (Emulator.stable_configured hv hid).invariant.call none (.command line) hc
  rwa [Emulator.Call.act, Act.after_map] at h

/-- A conversation answers whether a line quits. It writes the turns with the lines up to the first
that does, and a last prompt if none does. -/
theorem effect_converse (lines : List String) : (converse lines).effect e =
    ⟨.ok (decide (∃ line ∈ lines, Quits line)), Act.afterAll respond e (upToQuit lines),
      turns e (upToQuit lines) ++ if ∃ line ∈ lines, Quits line then [] else [prompt]⟩ := by
  -- Induction on the lines. Each response leaves the emulator configured, so that it responds to the
  -- lines behind as well.
  induction lines generalizing e with
  | nil => rfl
  | cons line lines ih =>
    have hrespond := effect_respond hc hv hid line
    have hrest := ih (configured_respond hc hv hid line)
    by_cases h : Quits line
    · simp [converse, upToQuit, turns, hrespond, h, Act.afterAll]
    · simp [converse, upToQuit, turns, hrespond, h, hrest, Act.afterAll]

end Configured

end MeshAlarm.Shell
