import MeshAlarm.Proofs.Handler.Runs

/-!
# The discovery follows from the history

How far the discovery of a handler is can be read off its calls: whether static state was asked for,
and whether the node was heard to report its event types. It only moves forward. A Supported Get is
asked for at most once in a run, by the first request for static state, unless the node has reported
its event types before; and it goes out alone. Every other request comes to the Gets that poll the
node, or to nothing.

## Main definitions

* `Handler.Asked`, `Handler.Informed`: what the calls of a run say about the discovery
* `Discovery.rank`: the stages of the discovery, counted
* `Handler.returned`, `Handler.supportedGets`: the packets that a run answers, and the Supported Gets
  among packets
* `Handler.Gated`: what a history says about the discovery and about the requests after it

## Main results

* `Handler.discovery_call`, `Handler.discovery_run`: the discovery after a call, and after a run
* `Handler.answer_call`, `Handler.supportedGets_returned`: what a call answers, and the Supported Gets
  of a run
* `Handler.discovery_follows_history`: the whole gate, after every run
-/

namespace MeshAlarm

/-- The number of a stage; later stages have greater numbers. -/
def Discovery.rank : Discovery → Nat
  | unknown => 0
  | requested => 1
  | known => 2

theorem Discovery.rank_le_known (d : Discovery) : d.rank ≤ known.rank := by
  cases d <;> decide

theorem Discovery.eq_unknown_of_rank_le {d : Discovery} (h : d.rank ≤ unknown.rank) :
    d = unknown := by
  cases d with
  | unknown => rfl
  | requested | known => exact absurd h (by decide)

theorem Discovery.eq_known_of_rank_le {d : Discovery} (h : known.rank ≤ d.rank) : d = known := by
  cases d with
  | known => rfl
  | unknown | requested => exact absurd h (by decide)

namespace Handler

/-! ### Histories -/

/-- The scope that a call requests, if it is a request for one. -/
def Call.scope? : Call → Option Scope
  | refresh _ scope => some scope
  | _ => none

/-- A request for static state. -/
def Call.Asks (call : Call) : Prop :=
  ∃ scope ∈ call.scope?, scope.static

/-- A call that delivers a supported report with all the bytes it needs. -/
def Call.Informs (call : Call) : Prop :=
  ∃ payload ∈ call.payload?, payload.head? = some 0x08 ∧ 2 ≤ payload.length

/-- Static state was asked for. -/
def Asked (calls : List Call) : Prop :=
  ∃ scope ∈ calls.filterMap Call.scope?, scope.static

/-- A supported report came in with all the bytes it needs. -/
def Informed (calls : List Call) : Prop :=
  ∃ payload ∈ delivered calls, payload.head? = some 0x08 ∧ 2 ≤ payload.length

instance (call : Call) : Decidable call.Asks :=
  inferInstanceAs (Decidable (∃ scope ∈ call.scope?, scope.static))

instance (call : Call) : Decidable call.Informs :=
  inferInstanceAs (Decidable
    (∃ payload ∈ call.payload?, payload.head? = some 0x08 ∧ 2 ≤ payload.length))

instance (calls : List Call) : Decidable (Asked calls) :=
  inferInstanceAs (Decidable (∃ scope ∈ calls.filterMap Call.scope?, scope.static))

instance (calls : List Call) : Decidable (Informed calls) :=
  inferInstanceAs (Decidable
    (∃ payload ∈ delivered calls, payload.head? = some 0x08 ∧ 2 ≤ payload.length))

theorem not_asked_nil : ¬ Asked [] := by
  rintro ⟨scope, hmem, -⟩
  cases hmem

theorem not_informed_nil : ¬ Informed [] := by
  rintro ⟨payload, hmem, -⟩
  cases hmem

theorem exists_mem_filterMap_concat {κ : Type} {view : Call → Option κ} {P : κ → Prop}
    {past : List Call} {call : Call} :
    (∃ x ∈ (past ++ [call]).filterMap view, P x) ↔
      (∃ x ∈ past.filterMap view, P x) ∨ ∃ x ∈ view call, P x := by
  have hlast : [call].filterMap view = (view call).toList := by
    cases hview : view call <;> simp [hview]
  simp only [List.filterMap_append, hlast, List.mem_append, Option.mem_toList, or_and_right,
    exists_or]
  exact Iff.rfl

theorem asked_concat {past : List Call} {call : Call} :
    Asked (past ++ [call]) ↔ Asked past ∨ call.Asks :=
  exists_mem_filterMap_concat

theorem informed_concat {past : List Call} {call : Call} :
    Informed (past ++ [call]) ↔ Informed past ∨ call.Informs :=
  exists_mem_filterMap_concat

/-- A call that is neither a payload nor a request for a scope says nothing about the discovery. -/
theorem Call.says_nothing (call : Call) (hpayload : call.payload? = none)
    (hscope : call.scope? = none) : ¬ call.Informs ∧ ¬ call.Asks := by
  constructor
  · rintro ⟨payload, hmem, -⟩
    rw [hpayload] at hmem
    cases hmem
  · rintro ⟨scope, hmem, -⟩
    rw [hscope] at hmem
    cases hmem

/-! ### One call -/

/-- The discovery is complete as soon as a supported report comes in. -/
theorem discovery_receive (h : Handler) (payload : List UInt8) :
    ((receive payload).run h).after.discovery =
      if payload.head? = some 0x08 ∧ 2 ≤ payload.length then .known else h.discovery := by
  have hwhole : (payload.head? = some 0x08 ∧ 2 ≤ payload.length) ↔
      ∃ r, Event.ofPayload h.version payload = .ok (.supported r) := by
    rw [← exists_reports_iff]
    exact exists_congr fun r => Event.ofPayload_eq_supported_iff.symm
  rcases h.receive_cases payload with ⟨hp, heffect⟩ | ⟨fault, -, hfault, heffect⟩ |
    ⟨event, -, hevent, heffect⟩
  · have hnot : ¬ (payload.head? = some 0x08 ∧ 2 ≤ payload.length) := by
      rintro ⟨hhead, -⟩
      have hhandles : handles payload = true := handles_iff.2 (.inr hhead)
      rw [hp] at hhandles
      cases hhandles
    rw [(Act.run_of_effect heffect).2.1, if_neg hnot]
  · have hnot : ¬ (payload.head? = some 0x08 ∧ 2 ≤ payload.length) := by
      rw [hwhole, hfault]
      rintro ⟨r, hr⟩
      cases hr
    rw [(Act.run_of_effect heffect).2.1, if_neg hnot]
  · rw [(Act.run_of_effect heffect).2.1]
    cases event with
    | supported r => rw [if_pos (hwhole.2 ⟨r, hevent⟩)]; rfl
    | report | get | supportedGet | bare =>
      have hnot : ¬ (payload.head? = some 0x08 ∧ 2 ≤ payload.length) := by
        rw [hwhole, hevent]
        rintro ⟨r, hr⟩
        cases hr
      rw [if_neg hnot]
      rfl

/-- Supported reports complete the discovery, the first request for static state starts it, and
every other call leaves it as it is. -/
theorem discovery_call {h : Handler} (hv : 1 ≤ h.version) (call : Call) :
    (call.act.run h).after.discovery =
      if call.Informs then .known
      else if call.Asks ∧ h.discovery = .unknown then
        if 1 < h.version then .requested else .known
      else h.discovery := by
  cases call with
  | receive payload =>
    have hinforms : (Call.receive payload).Informs ↔
        payload.head? = some 0x08 ∧ 2 ≤ payload.length := by
      simp [Call.Informs, Call.payload?]
    have hasks : ¬ (Call.receive payload).Asks := by
      simp [Call.Asks, Call.scope?]
    rw [Call.act, Act.after_map, discovery_receive]
    simp only [hinforms, hasks, false_and, if_false]
  | refresh capabilities scope =>
    have hinforms : ¬ (Call.refresh capabilities scope).Informs := by
      simp [Call.Informs, Call.payload?]
    have hasks : (Call.refresh capabilities scope).Asks ↔ scope.static := by
      simp [Call.Asks, Call.scope?]
    obtain ⟨asked, heffect⟩ := h.effect_refresh hv capabilities scope
    rw [Call.act, (Act.run_of_effect heffect).2.1, refreshed, if_neg hinforms]
    simp only [hasks]
    split <;> rfl
  | registerBasics =>
    obtain ⟨hinforms, hasks⟩ := Call.says_nothing .registerBasics rfl rfl
    rw [if_neg hinforms, if_neg fun hfirst => hasks hfirst.1, Call.act, Act.after_map,
      (Act.run_of_effect h.effect_registerBasics).2.1]
  | pollRequests capabilities =>
    obtain ⟨hinforms, hasks⟩ := Call.says_nothing (.pollRequests capabilities) rfl rfl
    obtain ⟨asked, heffect⟩ := h.effect_pollRequests hv capabilities
    rw [if_neg hinforms, if_neg fun hfirst => hasks hfirst.1, Call.act,
      (Act.run_of_effect heffect).2.1]
  | watch announces =>
    obtain ⟨hinforms, hasks⟩ := Call.says_nothing (.watch announces) rfl rfl
    rw [if_neg hinforms, if_neg fun hfirst => hasks hfirst.1]
    rfl

/-- A call never takes the discovery back. -/
theorem rank_le_call {h : Handler} (hv : 1 ≤ h.version) (call : Call) :
    h.discovery.rank ≤ (call.act.run h).after.discovery.rank := by
  rw [discovery_call hv]
  by_cases hinforms : call.Informs
  · rw [if_pos hinforms]
    exact h.discovery.rank_le_known
  · rw [if_neg hinforms]
    by_cases hfirst : call.Asks ∧ h.discovery = .unknown
    · rw [hfirst.2]
      exact Nat.zero_le _
    · rw [if_neg hfirst]

/-- What a call answers: Gets, or one Supported Get, if the call is the first to ask a node for its
event types. -/
theorem answer_call {h : Handler} (hv : 1 ≤ h.version) (call : Call) :
    ∃ packets, (call.act.run h).result = .ok packets ∧
      ((∀ p ∈ packets, p.command = .get) ∨
        call.Asks ∧ h.discovery = .unknown ∧ 1 < h.version ∧
          packets = [{ command := .supportedGet }]) := by
  have hnone : ∀ p ∈ ([] : List Packet), p.command = .get := by
    intro p hp
    cases hp
  cases call with
  | receive payload =>
    refine ⟨[], ?_, .inl hnone⟩
    rcases h.receive_cases payload with ⟨-, heffect⟩ | ⟨_, -, -, heffect⟩ | ⟨_, -, -, heffect⟩
    · exact Act.result_map_of_ok (Act.run_of_effect heffect).1
    · exact Act.result_map_of_ok (Act.run_of_effect heffect).1
    · exact Act.result_map_of_ok (Act.run_of_effect heffect).1
  | refresh capabilities scope =>
    obtain ⟨asked, heffect⟩ := h.effect_refresh hv capabilities scope
    refine ⟨_, (Act.run_of_effect heffect).1, ?_⟩
    unfold requests
    by_cases hfirst : scope.static ∧ h.discovery = .unknown ∧ 1 < h.version
    · rw [if_pos hfirst]
      exact .inr ⟨⟨scope, rfl, hfirst.1⟩, hfirst.2.1, hfirst.2.2, rfl⟩
    · rw [if_neg hfirst]
      refine .inl ?_
      intro p hp
      split at hp
      · exact Request.command_of_mem_polls hp
      · cases hp
  | registerBasics =>
    exact ⟨[], Act.result_map_of_ok (Act.run_of_effect h.effect_registerBasics).1, .inl hnone⟩
  | pollRequests capabilities =>
    obtain ⟨asked, heffect⟩ := h.effect_pollRequests hv capabilities
    exact ⟨_, (Act.run_of_effect heffect).1, .inl fun p hp => Request.command_of_mem_polls hp⟩
  | watch announces => exact ⟨[], rfl, .inl hnone⟩

/-! ### Runs -/

/-- The packets of an answer; a failed call answers none. -/
def packetsOf : Call × Except Fault (List Packet) → List Packet
  | (_, .ok packets) => packets
  | (_, .error _) => []

/-- The packets that calls answer, in order. -/
def returned (h : Handler) (calls : List Call) : List Packet :=
  (Act.transcript Call.act h calls).flatMap packetsOf

theorem returned_concat (h : Handler) (past : List Call) (call : Call) :
    h.returned (past ++ [call]) =
      h.returned past ++ packetsOf (call, (call.act.run (h.run past)).result) := by
  rw [returned, Act.transcript_concat, List.flatMap_append]
  simp [returned, run]

/-- The Supported Gets among packets. -/
def supportedGets (packets : List Packet) : Nat :=
  packets.countP fun p => p.command = .supportedGet

theorem supportedGets_append (packets more : List Packet) :
    supportedGets (packets ++ more) = supportedGets packets + supportedGets more :=
  List.countP_append

theorem supportedGets_of_gets {packets : List Packet} (h : ∀ p ∈ packets, p.command = .get) :
    supportedGets packets = 0 := by
  rw [supportedGets, List.countP_eq_zero]
  intro p hp
  simp [h p hp]

theorem run_append (h : Handler) (past later : List Call) :
    h.run (past ++ later) = (h.run past).run later :=
  List.foldl_append

section Runs

variable {fresh : Handler} (hv : 1 ≤ fresh.version)

include hv

/-- Calls never take the discovery back. -/
theorem rank_le_run (calls : List Call) :
    fresh.discovery.rank ≤ (fresh.run calls).discovery.rank := by
  refine (Act.afterAll_history (P := fun _ (h : Handler) => h.version = fresh.version ∧
    fresh.discovery.rank ≤ h.discovery.rank) ⟨rfl, le_rfl⟩ ?_ calls).2
  rintro past call h ⟨hversion, hrank⟩
  have hv' : 1 ≤ h.version := hversion ▸ hv
  exact ⟨by rw [version_call hv', hversion], hrank.trans (rank_le_call hv' call)⟩

/-- Calls return a Supported Get at most once, and none while the discovery has not begun or if nodes
of the version have no event types to tell. -/
theorem supportedGets_returned (calls : List Call) :
    supportedGets (fresh.returned calls) ≤ 1 ∧
      ((fresh.run calls).discovery = .unknown ∨ fresh.version = 1 →
        supportedGets (fresh.returned calls) = 0) := by
  -- Induction from the end: once a Supported Get is out, the discovery has begun.
  induction calls using List.reverseRecOn with
  | nil => exact ⟨Nat.zero_le _, fun _ => rfl⟩
  | append_singleton past call ih =>
    obtain ⟨honce, hnone⟩ := ih
    have hv' : 1 ≤ (fresh.run past).version := (version_run hv past).symm ▸ hv
    obtain ⟨packets, hanswer, hpackets⟩ := answer_call hv' call
    have hafter : (fresh.run (past ++ [call])).discovery =
        (call.act.run (fresh.run past)).after.discovery :=
      congrArg Handler.discovery (Act.afterAll_concat Call.act fresh past call)
    rw [returned_concat, hanswer, supportedGets_append, packetsOf, hafter]
    rcases hpackets with hgets | ⟨hasks, hunknown, hlater, rfl⟩
    · rw [supportedGets_of_gets hgets, Nat.add_zero]
      refine ⟨honce, ?_⟩
      rintro (hunknown | hone)
      · refine hnone (.inl ?_)
        have hrank := rank_le_call hv' call
        rw [hunknown] at hrank
        exact Discovery.eq_unknown_of_rank_le hrank
      · exact hnone (.inr hone)
    · rw [hnone (.inl hunknown), Nat.zero_add]
      refine ⟨le_rfl, ?_⟩
      rintro (hstill | hone)
      · rw [discovery_call hv'] at hstill
        by_cases hinforms : call.Informs
        · rw [if_pos hinforms] at hstill
          cases hstill
        · rw [if_neg hinforms, if_pos ⟨hasks, hunknown⟩, if_pos hlater] at hstill
          cases hstill
      · rw [version_run hv, hone] at hlater
        cases hlater

variable (hfresh : fresh.discovery = .unknown)

include hfresh

/-- How far the discovery of a new handler is after calls. -/
theorem discovery_run (calls : List Call) : (fresh.run calls).discovery =
    if Informed calls ∨ fresh.version = 1 ∧ Asked calls then .known
    else if Asked calls then .requested
    else .unknown := by
  refine (Act.afterAll_history (P := fun past (h : Handler) => h.version = fresh.version ∧
    h.discovery = if Informed past ∨ fresh.version = 1 ∧ Asked past then .known
      else if Asked past then .requested else .unknown) ⟨rfl, ?_⟩ ?_ calls).2
  · simp [not_informed_nil, not_asked_nil, hfresh]
  · rintro past call h ⟨hversion, hstage⟩
    have hv' : 1 ≤ h.version := hversion ▸ hv
    have hlater : 1 < h.version ↔ fresh.version ≠ 1 := by omega
    refine ⟨by rw [version_call hv', hversion], ?_⟩
    rw [discovery_call hv', hstage]
    simp only [informed_concat, asked_concat, hlater]
    by_cases hinforms : call.Informs
    · simp [hinforms]
    · by_cases hinformed : Informed past
      · simp [hinforms, hinformed]
      · by_cases hasked : Asked past <;> by_cases hasks : call.Asks <;>
          by_cases hone : fresh.version = 1 <;> simp [hinforms, hinformed, hasked, hasks, hone]

theorem known_run_iff (calls : List Call) : (fresh.run calls).discovery = .known ↔
    Informed calls ∨ fresh.version = 1 ∧ Asked calls := by
  rw [discovery_run hv hfresh]
  by_cases hreached : Informed calls ∨ fresh.version = 1 ∧ Asked calls
  · rw [if_pos hreached]
    exact iff_of_true rfl hreached
  · rw [if_neg hreached]
    refine iff_of_false ?_ hreached
    split <;> nofun

theorem requested_run_iff (calls : List Call) : (fresh.run calls).discovery = .requested ↔
    fresh.version ≠ 1 ∧ ¬ Informed calls ∧ Asked calls := by
  rw [discovery_run hv hfresh]
  by_cases hinformed : Informed calls
  · simp [hinformed]
  · by_cases hasked : Asked calls <;> by_cases hone : fresh.version = 1 <;>
      simp [hinformed, hasked, hone]

theorem unknown_run_iff (calls : List Call) :
    (fresh.run calls).discovery = .unknown ↔ ¬ Informed calls ∧ ¬ Asked calls := by
  rw [discovery_run hv hfresh]
  by_cases hinformed : Informed calls
  · simp [hinformed]
  · by_cases hasked : Asked calls <;> by_cases hone : fresh.version = 1 <;>
      simp [hinformed, hasked, hone]

end Runs

/-- What the history of a new handler says about its discovery, and about the requests that are
made next. -/
structure Gated (version : Int) (fresh : Handler) (past : List Call) : Prop where
  known : (fresh.run past).discovery = .known ↔ Informed past ∨ version = 1 ∧ Asked past
  requested : (fresh.run past).discovery = .requested ↔
    version ≠ 1 ∧ ¬ Informed past ∧ Asked past
  /-- The discovery only moves forward. -/
  forward : ∀ later, (fresh.run past).discovery.rank ≤ (fresh.run (past ++ later)).discovery.rank
  /-- Once complete it stays complete. -/
  final : (fresh.run past).discovery = .known →
    ∀ later, (fresh.run (past ++ later)).discovery = .known
  /-- The first request for static state asks a node that has not reported its event types for
  them, and for nothing else. -/
  first : ∀ capabilities scope,
    scope.static ∧ version ≠ 1 ∧ ¬ Informed past ∧ ¬ Asked past →
      ((refresh capabilities scope).run (fresh.run past)).result =
        .ok [{ command := .supportedGet }]
  /-- Every other request polls the node, if it is for dynamic state, and else asks for nothing. -/
  otherwise : ∀ capabilities scope,
    ¬ (scope.static ∧ version ≠ 1 ∧ ¬ Informed past ∧ ¬ Asked past) →
      ((refresh capabilities scope).run (fresh.run past)).result =
        if scope.dynamic then ((pollRequests capabilities).run (fresh.run past)).result else .ok []
  /-- A node is polled with Gets only, so that no request fails. -/
  polls : ∀ capabilities, ∃ packets,
    ((pollRequests capabilities).run (fresh.run past)).result = .ok packets ∧
      ∀ p ∈ packets, p.command = .get
  /-- Event types are asked for once in a run at most, and never in version 1. -/
  once : supportedGets (fresh.returned past) ≤ if version = 1 then 0 else 1

theorem gated {fresh : Handler} (hv : 1 ≤ fresh.version) (hfresh : fresh.discovery = .unknown)
    (past : List Call) : Gated fresh.version fresh past := by
  have hversion : (fresh.run past).version = fresh.version := version_run hv past
  have hv' : 1 ≤ (fresh.run past).version := hversion.symm ▸ hv
  have hforward (later : List Call) :
      (fresh.run past).discovery.rank ≤ (fresh.run (past ++ later)).discovery.rank := by
    rw [run_append]
    exact rank_le_run hv' later
  have hfirst (scope : Scope) :
      (scope.static ∧ (fresh.run past).discovery = .unknown ∧ 1 < (fresh.run past).version) ↔
        scope.static ∧ fresh.version ≠ 1 ∧ ¬ Informed past ∧ ¬ Asked past := by
    have hlater : 1 < fresh.version ↔ fresh.version ≠ 1 := by omega
    rw [unknown_run_iff hv hfresh, hversion, hlater, and_comm (b := fresh.version ≠ 1)]
  refine ⟨known_run_iff hv hfresh past, requested_run_iff hv hfresh past, hforward,
    ?final, ?first, ?otherwise, ?polls, ?once⟩
  case final =>
    intro hknown later
    have hrank := hforward later
    rw [hknown] at hrank
    exact Discovery.eq_known_of_rank_le hrank
  case first =>
    intro capabilities scope h
    obtain ⟨asked, heffect⟩ := (fresh.run past).effect_refresh hv' capabilities scope
    rw [(Act.run_of_effect heffect).1, requests, if_pos ((hfirst scope).2 h)]
  case otherwise =>
    intro capabilities scope h
    obtain ⟨asked, heffect⟩ := (fresh.run past).effect_refresh hv' capabilities scope
    obtain ⟨polled, hpolls⟩ := (fresh.run past).effect_pollRequests hv' capabilities
    rw [(Act.run_of_effect heffect).1, (Act.run_of_effect hpolls).1, requests,
      if_neg fun hs => h ((hfirst scope).1 hs)]
    split <;> rfl
  case polls =>
    intro capabilities
    obtain ⟨polled, hpolls⟩ := (fresh.run past).effect_pollRequests hv' capabilities
    refine ⟨_, (Act.run_of_effect hpolls).1, ?_⟩
    intro p hp
    exact Request.command_of_mem_polls hp
  case once =>
    obtain ⟨honce, hnone⟩ := supportedGets_returned hv past
    by_cases hone : fresh.version = 1
    · rw [if_pos hone]
      exact (hnone (.inr hone)).le
    · rw [if_neg hone]
      exact honce

/-- **The discovery follows from the history.** After any calls of a new handler, whatever the
registries answer, the discovery is where the history says, and it never goes back. Requests do not
fail. Event types are asked for at most once, by the first request for static state, alone, and only
if the node has not reported them by then; every other request comes to the polls, or to nothing. -/
theorem discovery_follows_history (nodeId : Int) {version : Int} (legacyLockState : Bool)
    (hv : 1 ≤ version) :
    ∃ fresh, create nodeId version legacyLockState = .ok fresh ∧
      ∀ past : List Call, Gated version fresh past := by
  refine ⟨{ nodeId, version, legacyLockState }, if_neg (by omega), ?_⟩
  intro past
  exact @gated { nodeId, version, legacyLockState } hv rfl past

/-- A malformed report does not complete the discovery that a request has begun, a whole one does. -/
theorem requested_until_informed : (1 : Int) ≤ 2 ∧ ∃ fresh, create 7 2 false = .ok fresh ∧
    (fresh.run [.refresh {} { static := true }, .receive [0x08]]).discovery = .requested ∧
      (fresh.run [.refresh {} { static := true }, .receive [0x08],
        .receive [0x08, 0x01, 0x02]]).discovery = .known := by
  obtain ⟨fresh, hfresh, h⟩ := @discovery_follows_history 7 2 false (by decide)
  exact ⟨by decide, fresh, hfresh, (h _).requested.2 (by decide), (h _).known.2 (by decide)⟩

end Handler

end MeshAlarm
