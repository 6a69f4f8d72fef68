import Mathlib.Data.Set.List
import MeshAlarm.Proofs.CommandLine.Run
import MeshAlarm.Proofs.Get
import MeshAlarm.Proofs.Packet.Hex
import MeshAlarm.Proofs.Results

/-!
# Runs that print requests

Gets are printed each on a line of its own: the name of the command, the length that the transport
counts, and the payload as hexadecimal text. The three parts fit together. The text is read back as a
packet, the length counts the bytes of this packet and the byte of the command class, and the packet
is read back as the Get that was asked for.

In version 1 there is one Get, the bare one, whatever types are chosen. From version 2 on there is one
for each type that is chosen, in the same order and as often, or one for each type of the table if
none is chosen. A choice is a name in small letters, which is looked up like every other name of a
type.

## Main definitions

* `ReadsBack`, `PrintsGets`: lines and outputs that are read back as Gets
* `PrintsRequests`: how a run ends that prints requests, and what it writes

## Main results

* `ofName_choice`: every choice is a name of its type
* `readsBack_requestLine`: the line of a Get is read back
* `requestsOf_eq`: the requests that a task asks for
* `requests_read_back_as_asked`: runs that print requests print what was asked for
-/

namespace MeshAlarm.CommandLine

/-! ### Choices -/

/-- Every choice is a name of its type. -/
theorem ofName_choice (t : EventType) : EventType.ofName (choice t) = .ok t := by
  cases t <;> decide +kernel

/-- Different types have different choices. -/
theorem choice_injective : Function.Injective choice := by
  intro t u h
  have hsame : EventType.ofName (choice t) = EventType.ofName (choice u) := congrArg _ h
  rw [ofName_choice, ofName_choice] at hsame
  exact Except.ok.inj hsame

/-- Names among the choices are the choices of types. -/
theorem exists_map_choice {names : List String} (h : ∀ name ∈ names, name ∈ choices) :
    ∃ types, List.map choice types = names := by
  have hrange : ∀ name ∈ names, name ∈ Set.range choice := by
    intro name hname
    obtain ⟨t, -, ht⟩ := List.mem_map.1 (h name hname)
    exact ⟨t, ht⟩
  rwa [← Set.mem_range, Set.range_list_map]

/-! ### Lines -/

/-- A line that is read back as a Get: a length, and a text that spells a packet of this length. -/
def ReadsBack (version : Int) (asked : Get) (line : String) : Prop :=
  ∃ (length : Nat) (hex : String) (p : Packet), line = s!"AlarmCmd_Get length={length}: {hex}" ∧
    Packet.ofHex hex = .ok p ∧ length = p.encode.length + 1 ∧ p.command = .get ∧
      Get.decode version p.data = asked

/-- An output of lines that are read back as Gets, one each. -/
def PrintsGets (version : Int) (asked : List Get) (output : String) : Prop :=
  ∃ printed : List String, output = String.join (printed.map (· ++ "\n")) ∧
    (∀ line ∈ printed, '\n' ∉ line.toList) ∧ List.Forall₂ (ReadsBack version) asked printed

/-- The line of a Get is read back. -/
theorem readsBack_requestLine {version : Int} {g : Get}
    (h : Get.decode version g.encode.data = g) : ReadsBack version g (requestLine g.encode) := by
  have hcommand := Request.command_encode_get g
  refine ⟨g.encode.length, g.encode.hex, g.encode, ?_, Packet.ofHex_hex _, ?_, hcommand, h⟩
  · rw [requestLine, Packet.name, hcommand]
    rfl
  · exact (Packet.length_framed _).symm

/-- Neither names nor digits end a line. -/
theorem newline_not_mem_requestLine (p : Packet) : '\n' ∉ (requestLine p).toList := by
  have hname (c : Command) : '\n' ∉ c.name.toList := by
    cases c <;> decide
  have hlength : '\n' ∉ (toString p.length).toList := by
    intro h
    rw [Nat.toString_eq_repr, Nat.toList_repr] at h
    have hdigit := Nat.isDigit_of_mem_toDigits (by decide) (by decide) h
    cases hdigit
  have hhex : '\n' ∉ p.hex.toList := by
    rw [Packet.hex, Text.Hex.ofBytes, String.toList_ofList]
    intro h
    obtain ⟨n, hn, hdigit⟩ := Text.Hex.exists_of_mem_encode h
    have hnone : ∀ n < 16, '\n' ≠ Text.Hex.digit n := by decide
    exact hnone n hn hdigit
  have hline : (requestLine p).toList = p.name.toList ++ " length=".toList ++
      (toString p.length).toList ++ ": ".toList ++ p.hex.toList := by
    simp only [requestLine, String.toList_append]
    rfl
  simp only [hline, List.mem_append, not_or]
  exact ⟨⟨⟨⟨hname _, by decide⟩, hlength⟩, by decide⟩, hhex⟩

theorem printsGets_requestLine {version : Int} {asked : List Get}
    (h : ∀ g ∈ asked, Get.decode version g.encode.data = g) :
    PrintsGets version asked
      (String.join (((asked.map Get.encode).map requestLine).map (· ++ "\n"))) := by
  refine ⟨(asked.map Get.encode).map requestLine, rfl, ?_, ?_⟩
  · intro line hline
    obtain ⟨p, -, rfl⟩ := List.mem_map.1 hline
    exact newline_not_mem_requestLine p
  · rw [List.map_map, List.forall₂_map_right_iff, List.forall₂_same]
    exact fun g hg => readsBack_requestLine (h g hg)

/-! ### Requests -/

/-- The Get for an event type at a version. -/
def typedGet (version : Int) (t : EventType) : Get where
  eventType := some t
  firstEvent := 3 ≤ version

/-- The Gets of a version for chosen types. From version 2 on every type is asked for if none is
chosen. -/
def gets (version : Int) (types : List EventType) : List Get :=
  if version = 1 then [{}]
  else (if types.isEmpty then EventType.all else types).map (typedGet version)

/-- At their version, the Gets are read back. -/
theorem decode_of_mem_gets {version : Int} {types : List EventType} {g : Get}
    (h : g ∈ gets version types) : Get.decode version g.encode.data = g := by
  unfold gets at h
  split at h
  · next hversion => rw [List.mem_singleton.1 h, hversion, Get.decode_one]
  · next hversion =>
    obtain ⟨t, -, rfl⟩ := List.mem_map.1 h
    exact Get.decode_encode hversion _

/-! ### Runs -/

/-- How a run ends that prints requests of a version for chosen types, and what it writes. -/
structure PrintsRequests (version : Int) (types : List EventType) (run : Run) : Prop where
  finished : run.ending = .finished
  /-- In version 1 it prints the bare Get, once. -/
  bare : version = 1 → PrintsGets version [{}] run.output
  /-- From version 2 on it prints a Get for each type that is chosen, in the same order. -/
  given : 2 ≤ version → types ≠ [] → PrintsGets version (types.map (typedGet version)) run.output
  /-- If none is chosen, it prints one for each type, in the order of the table. -/
  every : 2 ≤ version → types = [] → ∃ all, EventType.InOrder all ∧ (∀ t, t ∈ all) ∧
    PrintsGets version (all.map (typedGet version)) run.output

section Chosen

variable {task : RequestTask} {types : List EventType} (hv : 1 ≤ task.version)
  (h : task.supportedGet = false) (hnames : task.names = types.map choice)
include hv h hnames

/-- The requests that a task asks for, unless they are for the supported types. -/
theorem requestsOf_eq : requestsOf task = .ok ((gets task.version types).map Get.encode) := by
  rw [requestsOf, if_neg (by simp [h]), gets]
  by_cases hversion : task.version = 1
  · rw [if_pos hversion, if_pos hversion, hversion]
    rfl
  · have hchosen : (if task.names.isEmpty then choices else task.names) =
        (if types.isEmpty then EventType.all else types).map choice := by
      rw [hnames, List.isEmpty_map]
      split <;> rfl
    rw [if_neg hversion, if_neg hversion, hchosen, List.map_map, List.mapM_map]
    refine mapM_of_forall fun t _ => ?_
    rw [Function.comp_apply, ofName_choice, ok_bind, Request.get_of_type hv hversion]
    rfl

theorem effect_printRequests : (printRequests task).effect () = ⟨.ok .finished, (),
    (((gets task.version types).map Get.encode).map requestLine).map (· ++ "\n")⟩ := by
  have hrequests : (Act.ofExcept (requestsOf task) : Act Unit String (List Packet)).effect () =
      ⟨.ok ((gets task.version types).map Get.encode), (), []⟩ := by
    rw [Act.effect_ofExcept, requestsOf_eq hv h hnames]
  exact effect_refusing_of_ok hrequests (effect_printLines _)

theorem printsRequests (threshold : Log.Level) (lines : List String) :
    PrintsRequests task.version types ((Task.request task).run threshold lines) := by
  obtain ⟨hfinished, houtput⟩ :=
    (Task.request task).run_of_effect threshold lines (effect_printRequests hv h hnames)
  have hprints := printsGets_requestLine fun g => @decode_of_mem_gets task.version types g
  rw [← houtput] at hprints
  refine ⟨hfinished, ?bare, ?given, ?every⟩
  case bare =>
    intro hone
    rwa [gets, if_pos hone] at hprints
  case given =>
    intro htwo hgiven
    have hsome : types.isEmpty = false := List.isEmpty_eq_false_iff.2 hgiven
    rwa [gets, if_neg (by omega), hsome] at hprints
  case every =>
    intro htwo hnone
    rw [gets, if_neg (by omega), hnone] at hprints
    exact ⟨EventType.all, EventType.inOrder_all, EventType.mem_all, hprints⟩

end Chosen

/-- **Runs that print requests print what was asked for.** Whatever choices are named, in whatever
order and however often, one Get is printed in version 1, and one for each choice from version 2 on,
or one for each type if none is named. Each line is read back as its Get. -/
theorem requests_read_back_as_asked {task : RequestTask} (hv : 1 ≤ task.version)
    (h : task.supportedGet = false) (hnames : ∀ name ∈ task.names, name ∈ choices) :
    ∃ types, task.names = List.map choice types ∧ ∀ threshold lines,
      PrintsRequests task.version types ((Task.request task).run threshold lines) := by
  obtain ⟨types, htypes⟩ := exists_map_choice hnames
  exact ⟨types, htypes.symm, printsRequests hv h htypes.symm⟩

/-- Types are printed in the order in which they are named, and as often. -/
theorem prints_flood_smoke_flood :
    let task : RequestTask := { version := 3, names := ["flood", "smoke", "flood"] }
    let run := (Task.request task).run .warning []
    (1 ≤ task.version ∧ task.supportedGet = false ∧ ∀ name ∈ task.names, name ∈ choices) ∧
      PrintsGets 3 [typedGet 3 .flood, typedGet 3 .smoke, typedGet 3 .flood] run.output ∧
        run.output = String.join ["AlarmCmd_Get length=5: 04000501\n",
          "AlarmCmd_Get length=5: 04000101\n", "AlarmCmd_Get length=5: 04000501\n"] := by
  intro task run
  have hv : 1 ≤ task.version := by decide
  have hnames : ∀ name ∈ task.names, name ∈ choices := by decide +kernel
  obtain ⟨types, htypes, hprints⟩ := requests_read_back_as_asked hv rfl hnames
  obtain rfl : types = [.flood, .smoke, .flood] :=
    List.map_injective_iff.2 choice_injective htypes.symm
  refine ⟨⟨hv, rfl, hnames⟩, ?_, ?_⟩
  · exact (hprints .warning []).given (by decide) (List.cons_ne_nil _ _)
  · decide +kernel

end MeshAlarm.CommandLine
